import MarkupAudit.Markup.Tag
import MarkupAudit.Proofs.Counter.Spelling
import MarkupAudit.Proofs.Template.Tokenization

/-!
# Masked code blocks

The placeholder of a code block is found again where it was put, and leads back to its block. A
placeholder starts with a fixed phrase and goes on with a digit. There is no digit in the phrase, so
text that does not hold the phrase stays what it is, even if it ends with the beginning of the phrase
and a placeholder follows.
-/

namespace MarkupAudit

open Text

namespace Placeholder

theorem opening_append_of_read? {s digits rest : Text} (h : read? s = some (digits, rest)) :
    ∃ d tail, s = opening ++ d :: tail ∧ isDigit d = true := by
  simp only [read?] at h
  split at h
  · cases h
  · rename_i body hbody
    rw [after?_eq_some_iff.1 hbody]
    split at h
    · cases h
    · rename_i hdigits
      cases body with
      | nil => simp at hdigits
      | cons d tail =>
          refine ⟨d, tail, rfl, ?_⟩
          by_contra hd
          simp [hd] at hdigits

/-- No placeholder begins in text without the opening phrase, not even one that takes the rest of the
phrase from a placeholder behind. -/
theorem read?_append_eq_none {s t : Text} (hs : s ≠ []) (hopening : ¬ opening <:+: s)
    (ht : t = [] ∨ opening <+: t) : read? (s ++ t) = none := by
  rw [Option.eq_none_iff_forall_ne_some]
  rintro ⟨digits, rest⟩ hread
  obtain ⟨d, tail, hsplit, hd⟩ := opening_append_of_read? hread
  rcases List.append_eq_append_iff.1 hsplit with ⟨w, hw, rfl⟩ | ⟨w, rfl, -⟩
  · -- the digit behind the phrase lies in the phrase of the placeholder behind
    obtain ht | ⟨u, hu⟩ := ht
    · simp at ht
    · have hshort : w.length < opening.length := by
        have := List.length_pos_of_ne_nil hs
        rw [hw, List.length_append]
        omega
      have hmem : d ∈ opening := by
        rcases List.append_eq_append_iff.1 hu with ⟨v, rfl, -⟩ | ⟨v, hv, hd⟩
        · rw [List.length_append] at hshort
          omega
        · cases v with
          | nil => simp [hv] at hshort
          | cons e v =>
              cases hd
              rw [hv]
              simp
      have none : opening.all (!isDigit ·) = true := by decide
      have := List.all_eq_true.1 none d hmem
      simp [hd] at this
  · exact hopening (List.infix_append [] opening w)

theorem read?_render (index : Nat) (s : Text) :
    read? (render index ++ s) = some (ofNat index, s) := by
  have hdigits : ∀ c ∈ ofNat index, isDigit c = true := fun c hc => Directive.isDigit_of_mem_ofNat hc
  have stops : StopsAt isDigit (closing ++ s) := stopsAt_cons.2 (by decide)
  have hbody : after? opening (render index ++ s) = some (ofNat index ++ (closing ++ s)) :=
    after?_eq_some_iff.2 (by simp [render])
  have hclosing : after? closing (closing ++ s) = some s := after?_eq_some_iff.2 rfl
  have hne : (ofNat index).isEmpty = false := List.isEmpty_eq_false_iff.2 Nat.toDigits_ne_nil
  simp only [read?, hbody, List.takeWhile_append_of_pos hdigits, List.dropWhile_append_of_pos hdigits,
    stops.takeWhile_eq_nil, stops.dropWhile_eq_self, List.append_nil, hne, hclosing]
  rfl

/-- A placeholder consists of digits and of the characters of its two phrases. -/
theorem not_mem_render {c : Char} (hc : isDigit c = false) (hopening : c ∉ opening ++ closing)
    (index : Nat) : c ∉ render index := by
  intro h
  simp only [render, List.mem_append] at h hopening
  obtain (h | h) | h := h
  · exact hopening (.inl h)
  · rw [Directive.isDigit_of_mem_ofNat h] at hc
    cases hc
  · exact hopening (.inr h)

theorem occursIn_eq_false {s : Text} (h : '_' ∉ s) : occursIn s = false := by
  induction s with
  | nil => rfl
  | cons c s ih =>
      have hread : read? (c :: s) = none := by
        rw [Option.eq_none_iff_forall_ne_some]
        rintro ⟨digits, rest⟩ hread
        obtain ⟨d, tail, hsplit, -⟩ := opening_append_of_read? hread
        refine h ?_
        rw [hsplit]
        exact List.mem_append_left _ (by decide)
      rw [occursIn, hread, ih fun hs => h (List.mem_cons_of_mem c hs)]
      rfl

end Placeholder

/-! ### The text with placeholders -/

namespace TagItem

/-- The text of some items with placeholders for the code blocks, counted from `index` on. -/
def masked (index : Nat) : List TagItem → Text
  | [] => []
  | .char c :: items => c :: masked index items
  | .code _ :: items => Placeholder.render index ++ masked (index + 1) items

/-- How many of some items are code blocks. -/
def blocks : List TagItem → Nat
  | [] => 0
  | .char _ :: items => blocks items
  | .code _ :: items => blocks items + 1

theorem length_nodes (pos : Int) (items : List TagItem) :
    (nodes pos items).length = blocks items := by
  induction items generalizing pos with
  | nil => rfl
  | cons item items ih =>
      cases item with
      | char c => exact ih (pos + 1)
      | code s => exact congrArg Nat.succ (ih (pos + s.length))

theorem sources_append (front back : List TagItem) :
    sources (front ++ back) = sources front ++ sources back :=
  List.flatMap_append

theorem masked_append (index : Nat) (front back : List TagItem) :
    masked index (front ++ back) = masked index front ++ masked (index + blocks front) back := by
  induction front generalizing index with
  | nil => rfl
  | cons item front ih =>
      cases item with
      | char c => simp [masked, blocks, ih]
      | code s => simp [masked, blocks, ih, Nat.add_assoc, Nat.add_comm 1]

/-- A character that is in no placeholder is masked only where it stands itself. -/
theorem not_mem_masked {c : Char} (hc : ∀ index, c ∉ Placeholder.render index)
    {items : List TagItem} (h : .char c ∉ items) (index : Nat) : c ∉ masked index items := by
  induction items generalizing index with
  | nil => simp [masked]
  | cons item items ih =>
      have hitems : .char c ∉ items := fun hmem => h (List.mem_cons_of_mem _ hmem)
      cases item with
      | char d =>
          have hd : c ≠ d := by
            rintro rfl
            exact h List.mem_cons_self
          simp [masked, hd, ih hitems]
      | code s => simp [masked, hc, ih hitems]

theorem nodes_append (pos : Int) (front back : List TagItem) :
    nodes pos (front ++ back) = nodes pos front ++ nodes (pos + (sources front).length) back := by
  induction front generalizing pos with
  | nil => simp [nodes, sources]
  | cons item front ih =>
      cases item with
      | char c =>
          rw [List.cons_append, nodes, nodes, ih]
          simp only [sources, List.flatMap_cons, source, List.length_append, List.length_singleton]
          congr 2
          omega
      | code s =>
          rw [List.cons_append, nodes, nodes, ih, List.cons_append]
          simp only [sources, List.flatMap_cons, source, List.length_append]
          congr 3
          omega

theorem blocks_append (front back : List TagItem) :
    blocks (front ++ back) = blocks front + blocks back := by
  induction front with
  | nil => simp [blocks]
  | cons item front ih => cases item <;> simp [blocks, ih]; omega

/-- The characters of a text, as items. -/
def chars (s : Text) : List TagItem :=
  s.map .char

section Chars

variable (index : Nat) (pos : Int) (s : Text)

@[simp] theorem masked_chars : masked index (chars s) = s := by
  induction s with
  | nil => rfl
  | cons c s ih => exact congrArg (c :: ·) ih

@[simp] theorem blocks_chars : blocks (chars s) = 0 := by
  induction s with
  | nil => rfl
  | cons c s ih => exact ih

@[simp] theorem nodes_chars : nodes pos (chars s) = [] := by
  induction s generalizing pos with
  | nil => rfl
  | cons c s ih => exact ih (pos + 1)

@[simp] theorem sources_chars : sources (chars s) = s := by
  induction s with
  | nil => rfl
  | cons c s ih => exact congrArg (c :: ·) ih

end Chars

end TagItem

namespace Tag

/-- A character in front of all blocks is left as it is. -/
theorem maskFrom_cons {pos : Int} {index : Nat} {c : Char} {s : Text} {blocks : List Node}
    (h : ∀ b ∈ blocks, pos + 1 ≤ b.span.start ∧ pos + 1 ≤ b.span.stop) :
    maskFrom pos index (c :: s) blocks = c :: maskFrom (pos + 1) index s blocks := by
  cases blocks with
  | nil => rfl
  | cons b blocks =>
      obtain ⟨hstart, hstop⟩ := h b List.mem_cons_self
      have start : (b.span.start - pos).toNat = (b.span.start - (pos + 1)).toNat + 1 := by omega
      have stop : (b.span.stop - pos).toNat = (b.span.stop - (pos + 1)).toNat + 1 := by omega
      simp only [maskFrom, start, stop, List.take_succ_cons, List.drop_succ_cons, List.cons_append]

theorem le_of_mem_nodes {pos : Int} {items : List TagItem} {b : Node}
    (h : b ∈ TagItem.nodes pos items) : pos ≤ b.span.start ∧ pos ≤ b.span.stop := by
  induction items generalizing pos with
  | nil => cases h
  | cons item items ih =>
      cases item with
      | char c =>
          have := ih h
          omega
      | code s =>
          rcases List.mem_cons.1 h with rfl | h
          · exact ⟨Int.le_refl pos, by simp only; omega⟩
          · have := ih h
            omega

/-- Masking replaces each block by the placeholder with its number. -/
theorem maskFrom_nodes (pos : Int) (index : Nat) (items : List TagItem) (tail : Text) :
    maskFrom pos index (TagItem.sources items ++ tail) (TagItem.nodes pos items) =
      TagItem.masked index items ++ tail := by
  induction items generalizing pos index with
  | nil => rfl
  | cons item items ih =>
      cases item with
      | char c =>
          have hnodes : TagItem.nodes pos (.char c :: items) = TagItem.nodes (pos + 1) items := rfl
          have hsources : TagItem.sources (.char c :: items) = c :: TagItem.sources items := rfl
          rw [hnodes, hsources, List.cons_append, maskFrom_cons fun b hb => le_of_mem_nodes hb, ih]
          rfl
      | code s =>
          have hsources : TagItem.sources (.code s :: items) = s ++ TagItem.sources items := rfl
          rw [hsources, TagItem.nodes, maskFrom, TagItem.masked, List.append_assoc s]
          have hlength : (pos + (s.length : Int) - pos).toNat = s.length := by omega
          simp only [Int.sub_self, Int.toNat_zero, List.take_zero, List.nil_append, hlength,
            List.drop_left, ih, List.append_assoc]

/-! ### The way back -/

section Pieces

variable {blocks : List Node} {c : Char} {s t digits rest : Text}

theorem pieces_placeholder (h : Placeholder.read? (c :: s) = some (digits, rest)) :
    pieces blocks (c :: s) =
      match block blocks digits with
      | .error e => .error e
      | .ok b => (pieces blocks rest).map (.code b :: ·) := by
  rw [pieces]
  split
  · rename_i hread
    rw [h] at hread
    cases hread
    rfl
  · rename_i hread
    rw [h] at hread
    cases hread

theorem pieces_literal (h : Placeholder.read? (c :: s) = none) :
    pieces blocks (c :: s) = (pieces blocks s).map (joinLiteral c) := by
  rw [pieces]
  split
  · rename_i hread
    rw [h] at hread
    cases hread
  · rfl

/-- A placeholder leads to the block whose number it has. -/
theorem pieces_render (index : Nat) :
    pieces blocks (Placeholder.render index ++ s) =
      match block blocks (ofNat index) with
      | .error e => .error e
      | .ok b => (pieces blocks s).map (.code b :: ·) := by
  have hread := Placeholder.read?_render index s
  exact pieces_placeholder hread

/-- The end of a text, or a placeholder. -/
def AtPlaceholder (s : Text) : Prop :=
  s = [] ∨ ∃ index rest, s = Placeholder.render index ++ rest

theorem AtPlaceholder.opening (h : AtPlaceholder s) : s = [] ∨ Placeholder.opening <+: s := by
  obtain rfl | ⟨index, rest, rfl⟩ := h
  · exact .inl rfl
  · refine .inr ?_
    simp only [Placeholder.render, List.append_assoc]
    exact List.prefix_append _ _

/-- A character before a placeholder becomes a literal of its own. -/
theorem map_joinLiteral (h : AtPlaceholder s) :
    (pieces blocks s).map (joinLiteral c) = (pieces blocks s).map (.literal [c] :: ·) := by
  obtain rfl | ⟨index, rest, rfl⟩ := h
  · rw [pieces]
    rfl
  · rw [pieces_render]
    cases block blocks (ofNat index) with
    | error e => rfl
    | ok b => cases pieces blocks rest <;> rfl

/-- Text in front of a placeholder that holds no placeholder itself is one literal. -/
theorem pieces_append (ht : t ≠ []) (hopening : ¬ Placeholder.opening <:+: t)
    (hs : AtPlaceholder s) :
    pieces blocks (t ++ s) = (pieces blocks s).map (.literal t :: ·) := by
  induction t with
  | nil => contradiction
  | cons c t ih =>
      have hread := Placeholder.read?_append_eq_none ht hopening hs.opening
      rw [List.cons_append] at hread ⊢
      rw [pieces_literal hread]
      cases t with
      | nil => exact map_joinLiteral hs
      | cons d t =>
          rw [ih (by simp) fun h => hopening (h.trans (List.suffix_cons c _).isInfix)]
          cases pieces blocks s <;> rfl

end Pieces

/-- What comes of a tag whose placeholders are read: all can be, unless there are so many of them that
a number has too many digits. -/
def counted {α : Type} (count : Nat) (a : α) : Except TagError α :=
  if count ≤ 10 ^ NumeralTooLong.limit then .ok a else .error (.numeral ⟨NumeralTooLong.limit + 1⟩)

section Counted

variable {α β : Type} {count : Nat}

theorem counted_of_le (h : count ≤ 10 ^ NumeralTooLong.limit) (a : α) : counted count a = .ok a :=
  if_pos h

theorem counted_of_lt (h : 10 ^ NumeralTooLong.limit < count) (a : α) :
    counted count a = .error (.numeral ⟨NumeralTooLong.limit + 1⟩) :=
  if_neg (Nat.not_le.2 h)

theorem map_counted (count : Nat) (a : α) (f : α → β) :
    (counted count a).map f = counted count (f a) := by
  unfold counted
  split <;> rfl

end Counted

theorem length_ofNat_limit :
    (ofNat (10 ^ NumeralTooLong.limit)).length = NumeralTooLong.limit + 1 := by
  have hdigits : ∀ k, 0 < k → ((ofNat (10 ^ NumeralTooLong.limit)).length ≤ k ↔
      10 ^ NumeralTooLong.limit < 10 ^ k) :=
    fun k hk => Nat.length_toDigits_le_iff (by decide) hk
  refine Nat.le_antisymm ((hdigits _ (Nat.succ_pos _)).2 ?_) (Nat.not_le.1 fun h => ?_)
  · exact Nat.pow_lt_pow_right (by decide) (Nat.lt_succ_self _)
  · exact Nat.lt_irrefl _ ((hdigits _ (by decide)).1 h)

/-- The block whose number is that of the blocks in front of it. -/
theorem block_ofNat (front behind : List Node) (b : Node)
    (h : front.length ≤ 10 ^ NumeralTooLong.limit) :
    block (front ++ b :: behind) (ofNat front.length) = counted (front.length + 1) b := by
  obtain hlt | heq := Nat.lt_or_eq_of_le h
  · rw [block, Directive.readNat_ofNat hlt, counted_of_le (Nat.succ_le_of_lt hlt)]
    simp
  · have hlong : ¬ (ofNat front.length).length ≤ NumeralTooLong.limit := by
      rw [heq, length_ofNat_limit]
      exact Nat.not_succ_le_self _
    rw [block, readNat, if_neg hlong, counted_of_lt (heq ▸ Nat.lt_succ_self _), heq,
      length_ofNat_limit]

/-- A placeholder leads to the block that follows the blocks in front, unless its number is too long to
be read. Then there are too many blocks whatever comes behind. -/
theorem pieces_render_counted {front behind : List Node} {b : Node} {s : Text} {count : Nat}
    {fs : List Fragment} (hfront : front.length ≤ 10 ^ NumeralTooLong.limit)
    (hcount : front.length < count)
    (hrest : front.length < 10 ^ NumeralTooLong.limit →
      pieces (front ++ b :: behind) s = counted count fs) :
    pieces (front ++ b :: behind) (Placeholder.render front.length ++ s) =
      counted count (.code b :: fs) := by
  rw [pieces_render, block_ofNat _ _ _ hfront]
  by_cases hnext : front.length < 10 ^ NumeralTooLong.limit
  · rw [counted_of_le (Nat.succ_le_of_lt hnext), hrest hnext]
    exact map_counted count fs _
  · rw [counted_of_lt (by omega), counted_of_lt (by omega)]

end Tag

end MarkupAudit
