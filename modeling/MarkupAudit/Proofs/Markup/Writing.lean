import MarkupAudit.Markup.Reading
import MarkupAudit.Proofs.Counter.Spelling

/-!
# Start tags as they are written

A start tag whose names are in lower case and whose values stand in double quotes is read as it is
written: the reader finds the same name, and the same attributes in the same order. In such a tag it
only comes to places in front of an attribute or in front of the end (`StartTag.placed`), and is
followed from one of them to the next.
-/

namespace MarkupAudit

namespace Text

/-- The lower case letters. -/
def lowerLetters : Text := "abcdefghijklmnopqrstuvwxyz".toList

/-- The digits. -/
def digits : Text := "0123456789".toList

/-- A name of lower case letters and digits, which starts with a letter. Some further characters are
allowed behind the first. -/
def IsName (further : Text) : Text → Prop
  | [] => False
  | c :: s => c ∈ lowerLetters ∧ ∀ d ∈ s, d ∈ lowerLetters ++ digits ++ further

instance (further : Text) : DecidablePred (IsName further)
  | [] => inferInstanceAs (Decidable False)
  | _ :: s =>
      have := List.decidableBAll (· ∈ lowerLetters ++ digits ++ further) s
      inferInstanceAs (Decidable (_ ∧ _))

/-- The name of a tag. -/
abbrev IsTagName : Text → Prop := IsName []

/-- The name of an attribute. -/
abbrev IsAttributeName : Text → Prop := IsName ['-']

/-- A character of a name of either sort. -/
def Plain (c : Char) : Prop :=
  c ∈ lowerLetters ++ digits ++ ['-']

section Names

variable {c : Char} {s : Text}

theorem Plain.of_all {p : Char → Bool} (hall : (lowerLetters ++ digits ++ ['-']).all p = true)
    (h : Plain c) : p c = true :=
  List.all_eq_true.1 hall c h

theorem Plain.ne {d : Char} (h : Plain c) (hd : d ∉ lowerLetters ++ digits ++ ['-']) : c ≠ d :=
  ne_of_mem_of_not_mem h hd

theorem Plain.isNameChar (h : Plain c) : StartTag.isNameChar c = true :=
  h.of_all (by decide)

theorem Plain.startsAttribute (h : Plain c) : StartTag.startsAttribute c = true :=
  h.of_all (by decide)

theorem Plain.continuesAttribute (h : Plain c) : StartTag.continuesAttribute c = true :=
  h.of_all (by decide)

theorem Plain.not_blank (h : Plain c) : isBlank c = false := by
  simpa using h.of_all (p := (!isBlank ·)) (by decide)

theorem Plain.lowerChar_eq (h : Plain c) : c.toNat ≠ 0x3A3 ∧ lowerChar c = [c] :=
  of_decide_eq_true
    (h.of_all (p := fun c => c.toNat ≠ 0x3A3 ∧ lowerChar c = [c]) (by decide))

theorem IsTagName.isAttributeName (h : IsTagName s) : IsAttributeName s := by
  cases s with
  | nil => exact h
  | cons c s =>
      refine ⟨h.1, fun d hd => List.mem_append_left _ ?_⟩
      simpa using h.2 d hd

theorem IsAttributeName.plain (h : IsAttributeName s) : ∀ c ∈ s, Plain c := by
  cases s with
  | nil => exact h.elim
  | cons c s =>
      refine List.forall_mem_cons.2 ⟨?_, h.2⟩
      exact List.mem_append_left _ (List.mem_append_left _ h.1)

theorem IsAttributeName.ne_nil (h : IsAttributeName s) : s ≠ [] := by
  rintro rfl
  exact h

theorem lowerAfter_of_plain (h : ∀ c ∈ s, Plain c) (before : Text) : lowerAfter before s = s := by
  induction s generalizing before with
  | nil => rfl
  | cons c s ih =>
      obtain ⟨hc, hs⟩ := List.forall_mem_cons.1 h
      obtain ⟨hsigma, hlower⟩ := hc.lowerChar_eq
      rw [lowerAfter, if_neg hsigma, hlower, ih hs]
      rfl

/-- A name is its own lower case. -/
theorem IsAttributeName.lower (h : IsAttributeName s) : lower s = s :=
  lowerAfter_of_plain h.plain []

end Names

end Text

theorem Reference.decode_of_not_mem {s : Text} (h : '&' ∉ s) : Reference.decode s = .ok s := by
  show Reference.replace 0 s = .ok s
  induction s with
  | nil => rfl
  | cons c s ih =>
      obtain ⟨hc, hs⟩ := List.forall_mem_cons.1 (List.forall_mem_ne.2 h)
      rw [Reference.replace, if_neg (Ne.symm hc), ih (List.forall_mem_ne.1 hs)]
      rfl

namespace StartTag

open Text

/-- Attributes as they are written, each behind a blank and with its value in double quotes. -/
def written : List (Text × Text) → Text
  | [] => []
  | (name, value) :: more => ' ' :: (name ++ '=' :: '"' :: (value ++ '"' :: written more))

/-- An attribute that can be written: nothing in its value has to be escaped. -/
def Writable (a : Text × Text) : Prop :=
  IsAttributeName a.1 ∧ '"' ∉ a.2 ∧ '&' ∉ a.2

/-- The place in front of attributes as written, behind the blank, or in front of the end of the
tag. -/
def placed (before : Char) (rest : Text) : List (Text × Text) → Cursor
  | [] => ⟨before, '>' :: rest⟩
  | (name, value) :: more =>
      ⟨' ', name ++ '=' :: '"' :: (value ++ '"' :: (written more ++ '>' :: rest))⟩

section Written

variable {before : Char} {rest name value : Text} {attributes : List (Text × Text)}

theorem written_cons_append {more : List (Text × Text)} :
    written ((name, value) :: more) ++ rest =
      ' ' :: (name ++ '=' :: '"' :: (value ++ '"' :: (written more ++ rest))) := by
  simp [written]

theorem length_le_written (attributes : List (Text × Text)) :
    attributes.length ≤ (written attributes).length := by
  induction attributes with
  | nil => exact Nat.le_refl 0
  | cons a attributes ih =>
      obtain ⟨name, value⟩ := a
      simp only [written, List.length_cons, List.length_append]
      omega

/-- What stands behind a name ends it. -/
theorem stopsAt_written {p : Char → Bool} (hblank : p ' ' = false) (hangle : p '>' = false) :
    StopsAt p (written attributes ++ '>' :: rest) := by
  cases attributes with
  | nil => exact stopsAt_cons.2 hangle
  | cons a attributes => exact stopsAt_cons.2 hblank

theorem stopsAt_name {p : Char → Bool} (h : IsAttributeName name)
    (hp : ∀ c, Plain c → p c = false) : StopsAt p (name ++ rest) := by
  rw [stopsAt_append h.ne_nil]
  intro c t hname
  exact hp c (h.plain c (by rw [hname]; exact List.mem_cons_self))

theorem Cursor.passWhile_append {p : Char → Bool} (run : Text) (hrun : ∀ c ∈ run, p c = true)
    (stops : StopsAt p rest) :
    (Cursor.mk before (run ++ rest)).passWhile p = ⟨run.getLast?.getD before, rest⟩ := by
  rw [passWhile, pass, List.takeWhile_append_of_pos hrun, List.dropWhile_append_of_pos hrun,
    stops.takeWhile_eq_nil, stops.dropWhile_eq_self, List.append_nil]

theorem Cursor.rest_passWhile (c : Cursor) (p : Char → Bool) :
    (c.passWhile p).rest = c.rest.dropWhile p :=
  rfl

theorem Cursor.passWhile_of_stops {p : Char → Bool} (stops : StopsAt p rest) :
    (Cursor.mk before rest).passWhile p = ⟨before, rest⟩ :=
  passWhile_append [] (by simp) stops

/-- The gap in front of attributes, as it is passed when the end of the tag is looked for. -/
theorem passWhile_written (h : ∀ a ∈ attributes, Writable a) :
    (Cursor.mk before (written attributes ++ '>' :: rest)).passWhile
      (fun c => isBlank c || c = '/') = placed before rest attributes := by
  cases attributes with
  | nil => exact Cursor.passWhile_of_stops (stopsAt_cons.2 (by decide))
  | cons a more =>
      obtain ⟨name, value⟩ := a
      rw [written_cons_append]
      have hname : IsAttributeName name := (h _ List.mem_cons_self).1
      refine Cursor.passWhile_append [' '] (List.forall_mem_singleton.2 rfl)
        (stopsAt_name hname fun c hc => ?_)
      have hslash : c ≠ '/' := hc.ne (by decide)
      simp [hc.not_blank, hslash]

/-- The gap in front of attributes, as it is passed when they are read. -/
theorem passGaps_written (h : ∀ a ∈ attributes, Writable a) :
    Cursor.passGaps before (written attributes ++ '>' :: rest) = placed before rest attributes := by
  cases attributes with
  | nil => simp [written, Cursor.passGaps, placed, isBlank]
  | cons a more =>
      obtain ⟨name, value⟩ := a
      have hname : IsAttributeName name := (h _ List.mem_cons_self).1
      obtain ⟨c, name, rfl⟩ := List.exists_cons_of_ne_nil hname.ne_nil
      have hc := hname.plain c (by simp)
      have hblank : isBlank ' ' = true := by decide
      have hslash : c ≠ '/' := hc.ne (by decide)
      simp [written_cons_append, Cursor.passGaps, placed, hblank, hc.not_blank, hslash]

theorem takeWhile_value (h : '"' ∉ value) :
    (value ++ '"' :: rest).takeWhile (· ≠ '"') = value := by
  have hvalue : ∀ c ∈ value, decide (c ≠ '"') = true := fun c hc => by
    simpa using ne_of_mem_of_not_mem hc h
  rw [List.takeWhile_append_of_pos hvalue]
  simp

/-- The value behind the name of an attribute. -/
theorem assigned?_written (h : '"' ∉ value) :
    assigned? ⟨before, '=' :: '"' :: (value ++ '"' :: rest)⟩ = some (value, ⟨'"', rest⟩) := by
  have hsigns : ∀ s, (Cursor.mk before ('=' :: s)).passWhile isBlank = ⟨before, '=' :: s⟩ :=
    fun s => Cursor.passWhile_of_stops (stopsAt_cons.2 (by decide))
  have hbehind : ∀ s, (Cursor.mk before ('=' :: '"' :: s)).passWhile (· = '=') = ⟨'=', '"' :: s⟩ :=
    fun s => Cursor.passWhile_append ['='] (List.forall_mem_singleton.2 rfl)
      (stopsAt_cons.2 (by decide))
  have hstart : ∀ s, (Cursor.mk '=' ('"' :: s)).passWhile isBlank = ⟨'=', '"' :: s⟩ :=
    fun s => Cursor.passWhile_of_stops (stopsAt_cons.2 (by decide))
  have hvalue : value? ⟨'=', '"' :: (value ++ '"' :: rest)⟩ = some (value, ⟨'"', rest⟩) := by
    simp only [value?, takeWhile_value h]
    simp
  simp only [assigned?, hsigns, hbehind, hstart, hvalue]

/-- An attribute is read from the place in front of it, up to the place behind it. -/
theorem attribute?_placed {more : List (Text × Text)}
    (h : ∀ a ∈ (name, value) :: more, Writable a) :
    attribute? (placed before rest ((name, value) :: more)) =
      some ((name, some value), placed '"' rest more) := by
  obtain ⟨⟨hname, hquote, -⟩, hmore⟩ := List.forall_mem_cons.1 h
  obtain ⟨c, name, rfl⟩ := List.exists_cons_of_ne_nil hname.ne_nil
  obtain ⟨hc, hrun⟩ := List.forall_mem_cons.1 hname.plain
  have htail : ∀ d ∈ name, continuesAttribute d = true := fun d hd => (hrun d hd).continuesAttribute
  have stops : ∀ s, StopsAt continuesAttribute ('=' :: s) := fun s => stopsAt_cons.2 (by decide)
  have starts : (precedesAttribute ' ' && startsAttribute c) = true := by
    rw [hc.startsAttribute]
    decide
  simp only [attribute?, placed, List.cons_append, if_pos starts,
    List.takeWhile_append_of_pos htail, List.dropWhile_append_of_pos htail,
    (stops _).takeWhile_eq_nil, (stops _).dropWhile_eq_self, List.append_nil, Cursor.pass,
    assigned?_written hquote, passGaps_written hmore]

theorem attribute?_placed_nil : attribute? (placed before rest []) = none := by
  simp [attribute?, placed, startsAttribute]

/-- All attributes are passed when the end of the tag is looked for. -/
theorem rest_passAttributes (before : Char) (rest : Text) {fuel : Nat}
    (h : ∀ a ∈ attributes, Writable a) (hfuel : attributes.length ≤ fuel) :
    (passAttributes fuel (placed before rest attributes)).rest = '>' :: rest := by
  induction attributes generalizing before fuel with
  | nil =>
      cases fuel with
      | zero => rfl
      | succ fuel => rw [passAttributes, attribute?_placed_nil]; rfl
  | cons a more ih =>
      obtain ⟨name, value⟩ := a
      cases fuel with
      | zero => simp at hfuel
      | succ fuel =>
          rw [passAttributes, attribute?_placed h]
          exact ih '"' (List.forall_mem_cons.1 h).2 (Nat.le_of_succ_le_succ hfuel)

/-- All attributes are read, in order and as they are written. -/
theorem attributesUpTo_placed (before : Char) (rest : Text) {fuel : Nat}
    (h : ∀ a ∈ attributes, Writable a) (hfuel : attributes.length ≤ fuel) :
    attributesUpTo rest.length fuel (placed before rest attributes) =
      .ok (attributes.map fun a => (a.1, some a.2), '>' :: rest) := by
  induction attributes generalizing before fuel with
  | nil =>
      cases fuel with
      | zero => rfl
      | succ fuel =>
          rw [attributesUpTo, attribute?_placed_nil, ite_self]
          rfl
  | cons a more ih =>
      obtain ⟨name, value⟩ := a
      obtain ⟨⟨hname, -, hampersand⟩, hmore⟩ := List.forall_mem_cons.1 h
      cases fuel with
      | zero => simp at hfuel
      | succ fuel =>
          have hlong : ¬ (placed before rest ((name, value) :: more)).rest.length ≤ rest.length := by
            simp only [placed, List.length_append, List.length_cons]
            omega
          rw [attributesUpTo, if_neg hlong, attribute?_placed h]
          simp only [Reference.decode_of_not_mem hampersand, Except.map,
            ih '"' hmore (Nat.le_of_succ_le_succ hfuel), hname.lower, List.map_cons]

end Written

/-- A start tag as it is written. -/
def text (name : Text) (attributes : List (Text × Text)) : Text :=
  '<' :: (name ++ written attributes ++ ['>'])

section Tag

variable {name rest : Text} {attributes : List (Text × Text)}

theorem text_append : text name attributes ++ rest =
    '<' :: (name ++ (written attributes ++ '>' :: rest)) := by
  simp [text]

/-- A start tag starts with a letter behind its opening character. -/
theorem starts_text (hname : IsTagName name) (attributes : List (Text × Text)) :
    ∃ c, isLetter c = true ∧ ['<', c] <+: text name attributes := by
  have letters : lowerLetters.all isLetter = true := by decide
  cases name with
  | nil => exact hname.elim
  | cons c name => exact ⟨c, List.all_eq_true.1 letters c hname.1, by simp [text]⟩

theorem exists_written_cons (a : Text × Text) (more : List (Text × Text)) :
    ∃ front, written (a :: more) = front ++ ['"'] := by
  induction more generalizing a with
  | nil => exact ⟨' ' :: (a.1 ++ '=' :: '"' :: a.2), by simp [written]⟩
  | cons b more ih =>
      obtain ⟨front, hfront⟩ := ih b
      exact ⟨' ' :: (a.1 ++ '=' :: '"' :: (a.2 ++ '"' :: front)), by rw [written, hfront]; simp⟩

/-- What stands before the closing character of a start tag ends with a quotation mark or with the
name, so neither with a blank nor with a slash. -/
theorem exists_last (hname : IsTagName name) (attributes : List (Text × Text)) :
    ∃ front d, name ++ written attributes = front ++ [d] ∧ isBlank d = false ∧ d ≠ '/' := by
  cases attributes with
  | nil =>
      have hne := hname.isAttributeName.ne_nil
      have hd := hname.isAttributeName.plain _ (List.getLast_mem hne)
      refine ⟨name.dropLast, name.getLast hne, ?_, hd.not_blank, hd.ne (by decide)⟩
      rw [written, List.append_nil, List.dropLast_append_getLast hne]
  | cons a more =>
      obtain ⟨front, hfront⟩ := exists_written_cons a more
      exact ⟨name ++ front, '"', by rw [hfront, List.append_assoc], by decide, by decide⟩

/-- The name of a tag is passed, up to the gap behind it. -/
theorem passWhile_name (hname : IsTagName name) :
    (Cursor.mk '<' (name ++ (written attributes ++ '>' :: rest))).passWhile isNameChar =
      ⟨name.getLast?.getD '<', written attributes ++ '>' :: rest⟩ :=
  Cursor.passWhile_append name (fun c hc => (hname.isAttributeName.plain c hc).isNameChar)
    (stopsAt_written (by decide) (by decide))

theorem length_le_text_append (name rest : Text) (attributes : List (Text × Text)) :
    attributes.length ≤ (text name attributes ++ rest).length := by
  have := length_le_written attributes
  simp only [text, List.length_append, List.length_cons]
  omega

/-- The end of the tag is found. -/
theorem extent_text (hname : IsTagName name) (h : ∀ a ∈ attributes, Writable a) :
    extent (text name attributes ++ rest) = .upTo rest := by
  have hpassed := rest_passAttributes (name.getLast?.getD '<') rest h
    (length_le_text_append name rest attributes)
  have hblank : StopsAt isBlank ('>' :: rest) := stopsAt_cons.2 (by decide)
  unfold extent
  rw [text_append, List.drop_one, List.tail_cons, passWhile_name hname]
  simp only [passWhile_written h, Cursor.rest_passWhile]
  rw [← text_append, hpassed, hblank.dropWhile_eq_self]
  rfl

/-- The tag is read as it is written. -/
theorem read?_text (hname : IsTagName name) (h : ∀ a ∈ attributes, Writable a) :
    read? (text name attributes ++ rest) rest =
      .ok (some ⟨name, attributes.map fun a => (a.1, some a.2), false⟩) := by
  have htake : (name ++ (written attributes ++ '>' :: rest)).takeWhile isNameChar = name := by
    rw [List.takeWhile_append_of_pos fun c hc => (hname.isAttributeName.plain c hc).isNameChar,
      (stopsAt_written (by decide) (by decide)).takeWhile_eq_nil, List.append_nil]
  have hread := attributesUpTo_placed (name.getLast?.getD '<') rest h
    (length_le_text_append name rest attributes)
  have hcloser : trim (('>' :: rest).take (('>' :: rest).length - rest.length)) = ['>'] := by
    rw [List.length_cons, Nat.add_sub_cancel_left]
    rfl
  unfold read?
  rw [text_append, List.drop_one, List.tail_cons, htake, passWhile_name hname]
  simp only [passGaps_written h]
  rw [← text_append, hread]
  simp only [hcloser, if_true, hname.isAttributeName.lower]

end Tag

end StartTag

namespace Markup

open Text StartTag

theorem run_end (last : Bool) (fuel : Nat) (first : Option StartTag) (raw : Option Text) :
    run last fuel ⟨first, raw, []⟩ = .ok ⟨first, raw, []⟩ := by
  cases fuel with
  | zero => rfl
  | succ fuel => cases raw <;> rfl

section Tag

variable {name : Text} {attributes : List (Text × Text)}

/-- A start tag is recognised as such. -/
theorem construct?_text (raw : Bool) (rest : Text) (hname : IsTagName name)
    (h : ∀ a ∈ attributes, Writable a) :
    construct? raw (text name attributes ++ rest) =
      .ok (some (.start ⟨name, attributes.map fun a => (a.1, some a.2), false⟩ rest)) := by
  have hextent : extent (text name attributes ++ rest) = .upTo rest := extent_text hname h
  have hread : read? (text name attributes ++ rest) rest = _ := read?_text hname h
  obtain ⟨c, hc, tail, htail⟩ := starts_text hname attributes
  rw [← htail] at hextent hread ⊢
  simp only [List.cons_append, List.nil_append] at hextent hread ⊢
  simp only [construct?, if_pos hc, hextent, hread]

/-- Reading a start tag leaves nothing. -/
theorem run_text (last : Bool) (fuel : Nat) (hname : IsTagName name)
    (h : ∀ a ∈ attributes, Writable a) :
    ∃ raw, run last (fuel + 1) ⟨none, none, text name attributes⟩ =
      .ok ⟨some ⟨name, attributes.map fun a => (a.1, some a.2), false⟩, raw, []⟩ := by
  have hconstruct := construct?_text false [] hname h
  rw [List.append_nil, text] at hconstruct
  have hnext : ∀ s, ('<' :: s).dropWhile (fun c => c ≠ '<' && c ≠ '&') = '<' :: s := fun s => rfl
  rw [text, run]
  simp only [hnext, Option.isSome_none]
  split <;> rename_i hs <;> cases hs
  rw [hconstruct]
  exact ⟨_, run_end ..⟩

/-- The first tag of a text that is one start tag and nothing else. -/
theorem firstTag?_text (hname : IsTagName name) (h : ∀ a ∈ attributes, Writable a) :
    firstTag? (text name attributes) =
      .ok (some ⟨name, attributes.map fun a => (a.1, some a.2), false⟩) := by
  obtain ⟨raw, hrun⟩ := run_text false (text name attributes).length hname h
  rw [firstTag?, hrun]
  simp only [run_end]
  rfl

end Tag

end Markup

end MarkupAudit
