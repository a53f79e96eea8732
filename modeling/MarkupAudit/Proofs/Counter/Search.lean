import Mathlib.Data.List.Pairwise
import MarkupAudit.Proofs.Counter.Spelling

/-!
# Searching for directives

The search goes through a text from left to right and cuts off one directive after another
(`scan_induction`). A rendered directive splits the search in two: what is found before it is what is
found without it, and so is what is found behind it (`written_append_render`). A directive that was
found splits the search in the same way (`exists_of_written_eq_append`). So rendering and finding are
inverse in every context (`find_append_render`).
-/

namespace MarkupAudit

namespace Directive

open Text

theorem read?_spelling {rule digits m : Text} (hm : IsSpelling rule digits m) (rest : Text) :
    read? (m ++ rest) = some (rule, digits, rest) :=
  read?_eq_some_iff.2 ⟨m, hm, rfl⟩

theorem IsSpelling.length_pos {rule digits m : Text} (hm : IsSpelling rule digits m) :
    0 < m.length := by
  have h := length_read?_lt (read?_spelling hm [])
  simpa using h

/-- What the search does with a text: it stops at its end, cuts off a directive, or goes on by one
character. -/
theorem scan_induction {motive : Text → Prop} (nil : motive [])
    (directive : ∀ rule digits m rest, IsSpelling rule digits m → motive rest → motive (m ++ rest))
    (skip : ∀ c rest, read? (c :: rest) = none → motive rest → motive (c :: rest)) (s : Text) :
    motive s := by
  induction hn : s.length using Nat.strongRecOn generalizing s with
  | ind n ih =>
      subst hn
      cases s with
      | nil => exact nil
      | cons c rest =>
          cases hread : read? (c :: rest) with
          | none => exact skip c rest hread (ih rest.length (by simp) rest rfl)
          | some found =>
              obtain ⟨rule, digits, after⟩ := found
              have hlt := length_read?_lt hread
              obtain ⟨m, hm, hs⟩ := read?_eq_some_iff.1 hread
              rw [hs]
              exact directive rule digits m after hm (ih after.length hlt after rfl)

theorem written_nil (pos : Nat) : written pos [] = [] := by
  unfold written
  rfl

theorem written_skip {c : Char} {rest : Text} (h : read? (c :: rest) = none) (pos : Nat) :
    written pos (c :: rest) = written (pos + 1) rest := by
  conv => lhs; unfold written
  split
  · rename_i hread
    rw [h] at hread
    cases hread
  · rfl

theorem written_spelling {rule digits m : Text} (hm : IsSpelling rule digits m) (pos : Nat)
    (rest : Text) :
    written pos (m ++ rest) =
      ⟨rule, digits, pos, pos + m.length⟩ :: written (pos + m.length) rest := by
  have hread := read?_spelling hm rest
  have hlength : (m ++ rest).length - rest.length = m.length := by simp
  obtain ⟨c, m', rfl⟩ := List.exists_cons_of_length_pos hm.length_pos
  rw [List.cons_append] at hread hlength ⊢
  conv => lhs; unfold written
  split
  · rename_i found
    rw [hread] at found
    simp only [Option.some.injEq, Prod.mk.injEq] at found
    obtain ⟨rfl, rfl, rfl⟩ := found
    rw [hlength]
  · rename_i found
    rw [hread] at found
    cases found

/-- What was not read at the head of a text is not read at the head of a part of it either. -/
theorem read?_eq_none_of_append {s t : Text} (h : read? (s ++ t) = none) : read? s = none := by
  cases hread : read? s with
  | none => rfl
  | some found =>
      obtain ⟨rule, digits, rest⟩ := found
      rw [read?_append hread t] at h
      cases h

/-- A rendered directive does not make a directive of the text before it. -/
theorem read?_append_render_eq_none {pre : Text} (hpre : pre ≠ []) (h : read? pre = none)
    (rule : String) (n : Nat) (post : Text) : read? (pre ++ (render rule n ++ post)) = none := by
  cases hread : read? (pre ++ (render rule n ++ post)) with
  | none => rfl
  | some found =>
      obtain ⟨rule', digits, rest⟩ := found
      obtain ⟨m, hm, hs⟩ := read?_eq_some_iff.1 hread
      obtain ⟨t, ht⟩ := renderedHead_starts rule n
      rw [← ht, List.append_assoc] at hs
      obtain ⟨gap, rfl⟩ := hm.prefix_of_append_renderedHead hpre hs.symm
      rw [read?_spelling hm gap] at h
      cases h

/-- A rendered directive is found wherever it stands, and the search before it and behind it goes as
if it were not there. -/
theorem written_append_render {rule : String} (h : Nameable rule) (n pos : Nat) (pre post : Text) :
    written pos (pre ++ (render rule n ++ post)) =
      written pos pre ++
        ⟨rule.toList, ofNat n, pos + pre.length, pos + pre.length + (render rule n).length⟩ ::
          written (pos + pre.length + (render rule n).length) post := by
  induction pre using scan_induction generalizing pos with
  | nil => rw [List.nil_append, written_spelling (isSpelling_render h n), written_nil]; rfl
  | directive rule' digits m rest hm ih =>
      rw [List.append_assoc, written_spelling hm, written_spelling hm, ih (pos + m.length),
        List.length_append, Nat.add_assoc, Nat.add_assoc]
      rfl
  | skip c rest hread ih =>
      have hpre := read?_append_render_eq_none (List.cons_ne_nil c rest) hread rule n post
      rw [List.cons_append] at hpre ⊢
      rw [written_skip hpre, written_skip hread, ih (pos + 1), List.length_cons,
        Nat.add_right_comm pos 1, Nat.add_assoc pos]

/-- A directive that was found stands in the text where it says, and what was found before it and
behind it is what is found in the text before it and behind it. -/
theorem exists_of_written_eq_append {pos : Nat} {s : Text} {w : WrittenDirective}
    {front back : List WrittenDirective} (h : written pos s = front ++ w :: back) :
    ∃ pre m post, s = pre ++ (m ++ post) ∧ IsSpelling w.rule w.digits m ∧
      w.start = pos + pre.length ∧ w.stop = w.start + m.length ∧
      written pos pre = front ∧ written w.stop post = back := by
  induction s using scan_induction generalizing pos front with
  | nil =>
      rw [written_nil] at h
      simp at h
  | directive rule digits m rest hm ih =>
      rw [written_spelling hm] at h
      cases front with
      | nil =>
          obtain ⟨rfl, rfl⟩ := List.cons.inj h
          exact ⟨[], m, rest, rfl, hm, rfl, rfl, written_nil pos, rfl⟩
      | cons first front =>
          obtain ⟨rfl, htail⟩ := List.cons.inj h
          obtain ⟨pre, m', post, rfl, hm', hstart, hstop, hfront, hback⟩ := ih htail
          refine ⟨m ++ pre, m', post, by simp, hm', ?_, hstop, ?_, hback⟩
          · rw [hstart, List.length_append, Nat.add_assoc]
          · rw [written_spelling hm, hfront]
  | skip c rest hread ih =>
      rw [written_skip hread] at h
      obtain ⟨pre, m, post, rfl, hm, hstart, hstop, hfront, hback⟩ := ih h
      refine ⟨c :: pre, m, post, rfl, hm, ?_, hstop, ?_, hback⟩
      · rw [hstart, List.length_cons, Nat.add_assoc, Nat.add_comm 1]
      · have hpre : read? (c :: pre) = none := read?_eq_none_of_append hread
        rw [written_skip hpre, hfront]

/-- The directives that are found lie in the text. -/
theorem bounds_of_mem_written {pos : Nat} {s : Text} {w : WrittenDirective}
    (h : w ∈ written pos s) : pos ≤ w.start ∧ w.start < w.stop ∧ w.stop ≤ pos + s.length := by
  obtain ⟨front, back, hsplit⟩ := List.append_of_mem h
  obtain ⟨pre, m, post, rfl, hm, hstart, hstop, -, -⟩ := exists_of_written_eq_append hsplit
  have := hm.length_pos
  simp only [List.length_append]
  omega

/-- The directives that are found lie one behind the other. -/
theorem pairwise_written (pos : Nat) (s : Text) :
    (written pos s).Pairwise fun w v => w.stop ≤ v.start := by
  induction s using scan_induction generalizing pos with
  | nil => rw [written_nil]; exact List.Pairwise.nil
  | directive rule digits m rest hm ih =>
      rw [written_spelling hm]
      refine List.Pairwise.cons ?_ (ih _)
      intro v hv
      exact (bounds_of_mem_written hv).1
  | skip c rest hread ih =>
      rw [written_skip hread]
      exact ih _

/-- Of two directives that are found, one lies behind the other. -/
theorem stop_le_start_of_mem_written {pos : Nat} {s : Text} {w v : WrittenDirective}
    (hw : w ∈ written pos s) (hv : v ∈ written pos s) (hne : w ≠ v) :
    w.stop ≤ v.start ∨ v.stop ≤ w.start := by
  have either : (written pos s).Pairwise fun w v => w.stop ≤ v.start ∨ v.stop ≤ w.start :=
    (pairwise_written pos s).imp Or.inl
  have : Std.Symm fun w v : WrittenDirective => w.stop ≤ v.start ∨ v.stop ≤ w.start :=
    ⟨fun _ _ => Or.symm⟩
  exact either.forall hw hv hne

/-! ### What the directives say -/

/-- The directives in a text without their places: the rule and the digits of each. -/
def spelled (s : Text) : List (Text × Text) :=
  (written 0 s).map fun w => (w.rule, w.digits)

/-- The numbers of the directives for a rule, in order. -/
def counts (text : Text) (rule : String) : Except NumeralTooLong (List Nat) :=
  (find text rule).map (List.map Directive.count)

theorem map_written (pos : Nat) (s : Text) :
    ((written pos s).map fun w => (w.rule, w.digits)) = spelled s := by
  unfold spelled
  induction s using scan_induction generalizing pos with
  | nil => rw [written_nil, written_nil]
  | directive rule digits m rest hm ih =>
      rw [written_spelling hm, written_spelling hm, List.map_cons, List.map_cons,
        ih (pos + m.length), ih (0 + m.length)]
  | skip c rest hread ih => rw [written_skip hread, written_skip hread, ih (pos + 1), ih (0 + 1)]

theorem spelled_append_render {rule : String} (h : Nameable rule) (n : Nat) (pre post : Text) :
    spelled (pre ++ (render rule n ++ post)) =
      spelled pre ++ (rule.toList, ofNat n) :: spelled post := by
  rw [← map_written 0 (pre ++ (render rule n ++ post)), written_append_render h, List.map_append,
    List.map_cons, map_written, map_written]

theorem map_count_readAll (ws : List WrittenDirective) :
    (readAll ws).map (List.map Directive.count) = (ws.map (·.digits)).mapM readNat := by
  induction ws with
  | nil => rfl
  | cons w ws ih =>
      rw [readAll, List.map_cons, List.mapM_cons, ← ih]
      cases readNat w.digits with
      | error fault => rfl
      | ok n => cases readAll ws <;> rfl

/-- The numbers for a rule depend on the spelling of its directives alone. -/
theorem counts_eq (text : Text) (rule : String) :
    counts text rule =
      (((spelled text).filter fun e => e.1 == rule.toList).map Prod.snd).mapM readNat := by
  unfold counts find spelled
  rw [map_count_readAll, List.filter_map, List.map_map]
  rfl

/-- Where one number is found, one directive is found. -/
theorem find_of_counts {text : Text} {rule : String} {n : Nat} (h : counts text rule = .ok [n]) :
    ∃ d, find text rule = .ok [d] ∧ d.count = n := by
  unfold counts at h
  cases hfind : find text rule with
  | error fault =>
      rw [hfind] at h
      cases h
  | ok ds =>
      rw [hfind] at h
      obtain ⟨d, hd, hcount⟩ := List.map_eq_singleton_iff.1 (Except.ok.inj h)
      exact ⟨d, by rw [hd], hcount⟩

/-! ### Finding what was rendered -/

/-- A directive moved by a number of characters. -/
def shift (d : Directive) (k : Nat) : Directive :=
  ⟨d.count, d.span.shift k⟩

theorem written_add (pos k : Nat) (s : Text) :
    written (pos + k) s =
      (written pos s).map fun w => ⟨w.rule, w.digits, w.start + k, w.stop + k⟩ := by
  induction s using scan_induction generalizing pos with
  | nil => rw [written_nil, written_nil, List.map_nil]
  | directive rule digits m rest hm ih =>
      rw [written_spelling hm, written_spelling hm, List.map_cons, ← ih (pos + m.length),
        Nat.add_right_comm pos k]
  | skip c rest hread ih =>
      rw [written_skip hread, written_skip hread, ← ih (pos + 1), Nat.add_right_comm pos k]

/-- The numbers of directives are read one after the other: the first that cannot be read is the
fault. -/
theorem readAll_append (ws vs : List WrittenDirective) :
    readAll (ws ++ vs) = do
      let front ← readAll ws
      let back ← readAll vs
      return front ++ back := by
  induction ws with
  | nil =>
      rw [List.nil_append]
      cases readAll vs <;> rfl
  | cons w ws ih =>
      rw [List.cons_append, readAll, readAll, ih]
      cases readNat w.digits with
      | error fault => rfl
      | ok n => cases readAll ws <;> cases readAll vs <;> rfl

theorem readAll_map_shift (k : Nat) (ws : List WrittenDirective) :
    readAll (ws.map fun w => ⟨w.rule, w.digits, w.start + k, w.stop + k⟩) =
      (readAll ws).map (List.map (shift · k)) := by
  induction ws with
  | nil => rfl
  | cons w ws ih =>
      rw [List.map_cons, readAll, readAll, ih]
      cases readNat w.digits with
      | error fault => rfl
      | ok n => cases readAll ws <;> rfl

/-- The directives for a rule in a text that starts at an offset. -/
theorem readAll_filter_written (pos : Nat) (s : Text) (rule : String) :
    readAll ((written pos s).filter fun w => w.rule == rule.toList) =
      (find s rule).map (List.map (shift · pos)) := by
  have moved := written_add 0 pos s
  rw [Nat.zero_add] at moved
  rw [moved, List.filter_map, find, ← readAll_map_shift]
  rfl

/-- The numbers of all directives for a rule in a text can be read. -/
def Legible (s : Text) (rule : String) : Prop :=
  ∀ w ∈ written 0 s, w.rule = rule.toList → w.digits.length ≤ NumeralTooLong.limit

theorem exists_find_iff {s : Text} {rule : String} :
    (∃ ds, find s rule = .ok ds) ↔ Legible s rule := by
  have readable : ∀ ws : List WrittenDirective,
      (∃ ds, readAll ws = .ok ds) ↔ ∀ w ∈ ws, w.digits.length ≤ NumeralTooLong.limit := by
    intro ws
    induction ws with
    | nil => simp [readAll]
    | cons w ws ih =>
        rw [readAll, List.forall_mem_cons, ← ih, readNat]
        by_cases hw : w.digits.length ≤ NumeralTooLong.limit
        · simp only [if_pos hw]
          cases readAll ws <;> simp [Except.map, hw]
        · simp [hw]
  rw [find, readable]
  simp only [Legible, List.mem_filter, beq_iff_eq, and_imp]

/-- What is found for a rule around a rendered directive: what is found before it, the directive if it
names the rule, and what is found behind it, in its place there. A number that cannot be read is the
same fault on both sides. -/
theorem find_around_render {rule : String} (h : Nameable rule) (n : Nat) (pre post : Text)
    (asked : String) :
    let stop := pre.length + (render rule n).length
    find (pre ++ (render rule n ++ post)) asked = do
      let front ← find pre asked
      let own ← readAll ([⟨rule.toList, ofNat n, pre.length, stop⟩].filter
        fun w => w.rule == asked.toList)
      let back ← find post asked
      return front ++ (own ++ back.map (shift · stop)) := by
  intro stop
  have parts : written 0 (pre ++ (render rule n ++ post)) =
      written 0 pre ++ ([⟨rule.toList, ofNat n, pre.length, stop⟩] ++ written stop post) := by
    rw [written_append_render h, Nat.zero_add]
    rfl
  have front : readAll ((written 0 pre).filter fun w => w.rule == asked.toList) = find pre asked :=
    rfl
  rw [find, parts, List.filter_append, List.filter_append, readAll_append, front,
    readAll_append, readAll_filter_written]
  simp only [bind_assoc, pure_bind]
  cases find post asked <;> rfl

/-- Rendering and finding are inverse in every context: if the numbers of the directives for a rule
can be read before and behind a rendered directive, then what is found for the rule is what is found
before it, the directive itself if it names the rule, and what is found behind it, moved to its
place. -/
theorem find_append_render {rule : String} (h : Nameable rule) {n : Nat} (short : n < 10 ^ 4300)
    {pre post : Text} {asked : String} (hpre : Legible pre asked) (hpost : Legible post asked) :
    ∃ front back, find pre asked = .ok front ∧ find post asked = .ok back ∧
      find (pre ++ (render rule n ++ post)) asked =
        .ok (front ++
          ((if asked = rule then [⟨n, ⟨pre.length, pre.length + (render rule n).length⟩⟩] else []) ++
            back.map (shift · (pre.length + (render rule n).length)))) := by
  obtain ⟨front, hfront⟩ := exists_find_iff.2 hpre
  obtain ⟨back, hback⟩ := exists_find_iff.2 hpost
  have hread : readNat (ofNat n) = .ok n := by
    apply readNat_ofNat
    rw [NumeralTooLong.limit]
    exact short
  refine ⟨front, back, hfront, hback, ?_⟩
  rw [find_around_render h, hfront, hback]
  by_cases hasked : asked = rule
  · subst hasked
    rw [List.filter_cons_of_pos (by simp), List.filter_nil, readAll, hread]
    simp only [if_true, Int.natCast_add]
    rfl
  · have hne : ¬ (rule.toList == asked.toList) = true := by
      rw [beq_iff_eq, String.toList_inj]
      exact fun heq => hasked heq.symm
    rw [List.filter_cons, if_neg hne, List.filter_nil, if_neg hasked]
    rfl

/-- A directive that was begun and not finished. -/
def begunDirective : Text :=
  opening ++ [' '] ++ marker.toList ++ [' ', 'A']

theorem find_append_render_begun :
    ∃ front back, find begunDirective "B" = .ok front ∧ find (render "B" 7) "B" = .ok back ∧
      find (begunDirective ++ (render "B" 5 ++ render "B" 7)) "B" =
        .ok (front ++ ([⟨5, ⟨29, 63⟩⟩] ++ back.map (shift · 63))) := by
  have nameable : Nameable "B" := by decide
  have short : 5 < 10 ^ 4300 :=
    calc 5 < 10 ^ 1 := by decide
      _ ≤ 10 ^ 4300 := Nat.pow_le_pow_right (by decide) (by decide)
  have hpre : Legible begunDirective "B" := by
    unfold Legible
    decide +kernel
  have hpost : Legible (render "B" 7) "B" := by
    unfold Legible
    decide +kernel
  exact find_append_render nameable short hpre hpost

end Directive

end MarkupAudit
