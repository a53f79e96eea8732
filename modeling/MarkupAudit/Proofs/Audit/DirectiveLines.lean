import Mathlib.Data.List.Infix
import MarkupAudit.Proofs.Audit.Rounds
import MarkupAudit.Proofs.Rule.Motion
import MarkupAudit.Proofs.Template.Gluing
import MarkupAudit.Proofs.Text.Splitting

/-!
# Lines of directives

A directive that is missing is written into a new line at the start of a template. To the scanners
such a line is a comment and a line break, whatever rule it names, as long as the name does not close
the comment. So a template behind lines of directives is read into the nodes it was read into before,
all moved by the length of the lines (`nodes_linePieces`), and every rule finds there what it found
before, moved by that length and as many lines further down (`run_behindLines`).
-/

namespace MarkupAudit

open Text Directive

namespace Directive

/-- Lines with a directive each, for rules and numbers. -/
def lines (ls : List (String × Nat)) : Text :=
  ls.flatMap fun l => render l.1 l.2 ++ ['\n']

theorem lines_cons (l : String × Nat) (ls : List (String × Nat)) :
    lines (l :: ls) = render l.1 l.2 ++ '\n' :: lines ls := by
  simp [lines]

/-- The identifiers of rules that a directive can name without ending the comment it stands in. -/
def Commentable (rule : String) : Prop :=
  Nameable rule ∧ ¬ closing <:+: rule.toList

instance (rule : String) : Decidable (Commentable rule) :=
  inferInstanceAs (Decidable (_ ∧ _))

end Directive

/-! ### Directives are comments -/

/-- A phrase without a given character that occurs in a text stands before or behind that character. -/
theorem infix_append_cons_iff {phrase u v : Text} {c : Char} (hc : c ∉ phrase) :
    phrase <:+: u ++ c :: v ↔ phrase <:+: u ∨ phrase <:+: v := by
  constructor
  · rintro ⟨a, b, h⟩
    rw [List.append_assoc] at h
    rcases List.append_eq_append_iff.1 h with ⟨m, rfl, hm⟩ | ⟨m, rfl, hm⟩
    · obtain ⟨w, rfl, rfl⟩ := exists_append_of_not_mem_left hm.symm hc
      exact .inl ⟨a, w, by rw [List.append_assoc]⟩
    · cases m with
      | nil =>
          cases phrase with
          | nil => exact .inl (List.nil_infix)
          | cons p phrase =>
              cases hm
              exact absurd List.mem_cons_self hc
      | cons d m =>
          have hv : v = m ++ (phrase ++ b) := (List.cons.inj hm).2
          exact .inr ⟨m, b, by rw [hv, List.append_assoc]⟩
  · rintro (⟨a, b, rfl⟩ | ⟨a, b, rfl⟩)
    · exact ⟨a, b ++ c :: v, by simp⟩
    · exact ⟨u ++ c :: a, b, by simp⟩

/-- A text that does not contain the closing of a comment, between the delimiters of one. -/
theorem isComment_of_not_infix {body : Text} (h : ¬ closing <:+: body) :
    IsComment .template (opening ++ body ++ closing) := by
  refine ⟨body, rfl, trivial, ?_⟩
  rintro front back rfl hback - hstarts
  -- an earlier closing begins in the text, so it ends there too
  match back, hback with
  | [c], _ => simp [CommentKind.closer] at hstarts
  | c :: d :: back, _ =>
      obtain ⟨rest, hrest⟩ := hstarts
      cases hrest
      exact h ⟨front, back, by simp [closing]⟩

theorem isComment_render {rule : String} (h : Commentable rule) (n : Nat) :
    IsComment .template (render rule n) := by
  have hmarker : ¬ closing <:+: marker.toList := by decide
  have hdigits : ¬ closing <:+: ofNat n := by
    intro hwithin
    have hsign : isDigit '#' = true := isDigit_of_mem_ofNat (hwithin.subset List.mem_cons_self)
    exact absurd hsign (by decide)
  have hnone : ¬ closing <:+: ([] : Text) := by decide
  have hbody : ¬ closing <:+:
      [] ++ ' ' :: (marker.toList ++ ' ' :: (rule.toList ++ ' ' :: (ofNat n ++ ' ' :: []))) := by
    simp only [infix_append_cons_iff (show ' ' ∉ closing by decide), hnone, hmarker, hdigits, h.2,
      or_self, not_false_eq_true]
  have hcomment := isComment_of_not_infix hbody
  simpa only [render, List.append_assoc, List.nil_append, List.cons_append] using hcomment

/-! ### Lines are read into comments and line breaks -/

/-- The pieces of lines of directives. -/
def linePieces (ls : List (String × Nat)) : List Piece :=
  ls.flatMap fun l => [.comment (render l.1 l.2), .plain '\n']

theorem reads_lines {ls : List (String × Nat)} {t : Text} {qs : List Piece}
    (named : ∀ l ∈ ls, Commentable l.1) (ht : Reads t qs) :
    Reads (lines ls ++ t) (linePieces ls ++ qs) := by
  induction ls with
  | nil => exact ht
  | cons l ls ih =>
      have rest := ih fun m hm => named m (List.mem_cons_of_mem l hm)
      have line : Reads (render l.1 l.2 ++ '\n' :: (lines ls ++ t))
          (.comment (render l.1 l.2) :: .plain '\n' :: (linePieces ls ++ qs)) :=
        .comment (isComment_render (named l List.mem_cons_self) l.2)
          (.plain (not_startsOpener_cons (by decide) (by decide)) rest)
      rw [lines_cons, List.append_assoc]
      exact line

namespace Layout

/-- Nodes behind lines of directives that begin at an offset: a comment for each directive, and a line
break that joins the text run behind it if there is one. -/
def behindLines (pos : Nat) : List (String × Nat) → List Node → List Node
  | [], ns => ns
  | l :: ls, ns =>
      let stop := pos + (render l.1 l.2).length
      ⟨.comment, ⟨pos, stop⟩, render l.1 l.2, []⟩ ::
        joinText stop ['\n'] [] (behindLines (stop + 1) ls ns)

theorem nodes_linePieces (pos : Nat) (ls : List (String × Nat)) (qs : List Piece) :
    nodes pos (linePieces ls ++ qs) =
      behindLines pos ls (nodes (pos + (lines ls).length) qs) := by
  induction ls generalizing pos with
  | nil => rfl
  | cons l ls ih =>
      have hlength : pos + (lines (l :: ls)).length =
          pos + (render l.1 l.2).length + 1 + (lines ls).length := by
        rw [lines_cons, List.length_append, List.length_cons]
        omega
      rw [behindLines, hlength, ← ih]
      rfl

end Layout

/-! ### Moved nodes behind lines -/

section Moved

variable {K : Int → Prop} {k : Int}

theorem forall₂_movedWhole_shift (hk : K k) (blocks : List Node) :
    List.Forall₂ (MovedWhole K) blocks (blocks.map (Node.shift k)) := by
  rw [List.forall₂_map_right_iff, List.forall₂_same]
  exact fun b _ => ⟨k, hk, rfl⟩

theorem movedNode_textNode (hk : K k) {lo hi : Int} {source : Text} {blocks : List Node}
    (leaves : ∀ b ∈ blocks, b.IsCodeLeaf) :
    MovedNode K (textNode lo hi source blocks) ((textNode lo hi source blocks).shift k) := by
  refine .text rfl rfl rfl hk rfl leaves ?_
  rw [Node.shift_children]
  exact forall₂_movedWhole_shift hk blocks

theorem forall_mem_joinText {pos : Nat} {source : Text} {blocks ns : List Node} (hk : K k)
    (leaves : ∀ b ∈ blocks, b.IsCodeLeaf) (h : ∀ n ∈ ns, MovedNode K n (n.shift k)) :
    ∀ n ∈ Layout.joinText pos source blocks ns, MovedNode K n (n.shift k) := by
  by_cases hhead : ∀ n ∈ ns.head?, n.kind ≠ .text
  · rw [Layout.joinText_of_kind_ne hhead]
    exact List.forall_mem_cons.2 ⟨movedNode_textNode hk leaves, h⟩
  · push Not at hhead
    obtain ⟨n, hn, hkind⟩ := hhead
    obtain ⟨ns, rfl⟩ : ∃ tail, ns = n :: tail := ⟨ns.tail, (List.cons_head?_tail hn).symm⟩
    obtain ⟨first, rest⟩ := List.forall_mem_cons.1 h
    have leaves' := first.isLaid.1.blocks
    obtain ⟨_, span, tail, children⟩ := n
    cases hkind
    refine List.forall_mem_cons.2 ⟨movedNode_textNode hk ?_, rest⟩
    exact List.forall_mem_append.2 ⟨leaves, leaves'⟩

theorem isCodeLeaf_codeNode (pos : Nat) (u : Text) : (Layout.codeNode pos u).IsCodeLeaf :=
  ⟨rfl, rfl⟩

/-- The nodes of a template are moved if all of them are moved by one amount. -/
theorem movedNode_shift (hk : K k) (pos : Nat) (ps : List Piece) :
    ∀ n ∈ Layout.nodes pos ps, MovedNode K n (n.shift k) := by
  induction ps generalizing pos with
  | nil => exact List.forall_mem_nil _
  | cons p ps ih =>
      cases p with
      | plain c => exact forall_mem_joinText hk (List.forall_mem_nil _) (ih _)
      | code u =>
          refine forall_mem_joinText hk ?_ (ih _)
          exact List.forall_mem_singleton.2 (isCodeLeaf_codeNode pos u)
      | comment u => exact List.forall_mem_cons.2 ⟨.comment rfl rfl rfl rfl, ih _⟩
      | tag u is =>
          refine List.forall_mem_cons.2 ⟨.tag rfl ?_ ⟨k, hk, rfl⟩, ih _⟩
          intro b hb
          obtain ⟨i, -, rfl⟩ := List.mem_map.1 hb
          exact isCodeLeaf_codeNode _ _

theorem trim_cons_blank {c : Char} (hc : isBlank c = true) (s : Text) : trim (c :: s) = trim s := by
  rw [trim, trim, trimStart, trimStart, List.dropWhile_cons_of_pos hc]

/-- A blank before the nodes is nothing to a rule. -/
theorem MovedNodes.joinText_blank {ns ms : List Node} (h : MovedNodes K ns ms) {c : Char}
    (hc : isBlank c = true) (pos : Nat) : MovedNodes K ns (Layout.joinText pos [c] [] ms) := by
  have silent : (textNode pos (pos + [c].length) [c] []).IsSilent :=
    ⟨rfl, .inr ⟨rfl, List.forall_mem_singleton.2 hc⟩⟩
  by_cases hhead : ∀ m ∈ ms.head?, m.kind ≠ .text
  · rw [Layout.joinText_of_kind_ne hhead]
    exact .silent silent h
  · -- the blank joins the text run at the start
    push Not at hhead
    obtain ⟨m, hm, hkind⟩ := hhead
    obtain ⟨ms, rfl⟩ : ∃ tail, ms = m :: tail := ⟨ms.tail, (List.cons_head?_tail hm).symm⟩
    obtain ⟨_, span, tail, children⟩ := m
    cases hkind
    cases h with
    | moved h =>
        obtain ⟨n, ns, hnm, hrest, rfl⟩ := List.forall₂_cons_right_iff.1 h
        cases hnm with
        | tag kind _ moved =>
            obtain ⟨k, -, heq⟩ := moved
            have hkind := congrArg Node.kind heq
            rw [Node.shift_kind, kind] at hkind
            cases hkind
        | comment _ kind' => cases kind'
        | text kind kind' same hk stop blocks moved =>
            refine .moved (.cons (.text kind rfl ?_ hk stop blocks moved) hrest)
            rw [← same]
            exact trim_cons_blank hc tail
    | silent hm h =>
        obtain ⟨leaf, hkind | ⟨-, blank⟩⟩ := hm
        · cases hkind
        · exact .silent ⟨leaf, .inr ⟨rfl, List.forall_mem_cons.2 ⟨hc, blank⟩⟩⟩ h

/-- Lines of directives before the nodes are nothing to a rule. -/
theorem MovedNodes.behindLines {ns ms : List Node} (h : MovedNodes K ns ms)
    (ls : List (String × Nat)) (pos : Nat) :
    MovedNodes K ns (Layout.behindLines pos ls ms) := by
  induction ls generalizing pos with
  | nil => exact h
  | cons l ls ih =>
      refine .silent ⟨rfl, .inl rfl⟩ ?_
      exact (ih _).joinText_blank (by decide) _

end Moved

/-! ### Places behind lines -/

theorem not_mem_render {rule : String} (h : Nameable rule) (n : Nat) : '\n' ∉ render rule n := by
  have hrule : '\n' ∉ rule.toList := by
    intro hmem
    exact absurd (h.2 _ hmem) (by decide)
  have hdigits : '\n' ∉ ofNat n := by
    intro hmem
    exact absurd (isDigit_of_mem_ofNat hmem) (by decide)
  have hmarker : '\n' ∉ marker.toList := by decide
  simp [render, opening, closing, hrule, hdigits, hmarker]

theorem count_lines {ls : List (String × Nat)} (named : ∀ l ∈ ls, Nameable l.1) :
    (lines ls).count '\n' = ls.length := by
  induction ls with
  | nil => rfl
  | cons l ls ih =>
      have hnone := List.count_eq_zero.2 (not_mem_render (named l List.mem_cons_self) l.2)
      rw [lines_cons, List.count_append, List.count_cons_self, hnone,
        ih fun m hm => named m (List.mem_cons_of_mem l hm), List.length_cons, Nat.zero_add]

/-- Lines end with a line break. -/
theorem lines_eq_nil_or (ls : List (String × Nat)) :
    lines ls = [] ∨ ∃ front, lines ls = front ++ ['\n'] := by
  rcases List.eq_nil_or_concat ls with rfl | ⟨ls, l, rfl⟩
  · exact .inl rfl
  · exact .inr ⟨lines ls ++ render l.1 l.2, by simp [lines]⟩

/-- A place behind lines is in the same column, as many lines further down. -/
theorem place_lines {ls : List (String × Nat)} (named : ∀ l ∈ ls, Nameable l.1) (s : Text)
    (pos : Nat) :
    (lines ls ++ s).place (pos + (lines ls).length : Nat) =
      ⟨(s.place pos).line + ls.length, (s.place pos).column⟩ := by
  have hbound : bound (lines ls ++ s).length (pos + (lines ls).length : Nat) =
      (lines ls).length + bound s.length pos := by
    unfold bound
    rw [if_neg (by omega), if_neg (by omega), List.length_append]
    omega
  have htake : (lines ls ++ s).take ((lines ls).length + bound s.length pos) =
      lines ls ++ s.take (bound s.length pos) := List.take_length_add_append _
  have hline := takeWhile_reverse_append (v := s.take (bound s.length pos)) (lines_eq_nil_or ls)
  have hle := (List.takeWhile_sublist (l := (s.take (bound s.length pos)).reverse)
    (· ≠ '\n')).length_le
  rw [List.length_reverse] at hle
  simp only [place]
  rw [hbound, htake, hline, List.count_append, count_lines named, List.length_append]
  simp only [Place.mk.injEq]
  constructor <;> omega

/-! ### Templates behind lines -/

theorem exists_parse_behindLines {s : Text} {path : Option String} {d : Document}
    {ls : List (String × Nat)} (named : ∀ l ∈ ls, Commentable l.1)
    (h : Document.parse s path = .ok d) :
    ∃ e, Document.parse (lines ls ++ s) path = .ok e ∧
      e.children = Layout.behindLines 0 ls (d.children.map (Node.shift (lines ls).length)) := by
  obtain ⟨ps, hps, -⟩ := Document.parse_eq_ok_iff.1 h
  obtain ⟨e, he⟩ : ∃ e, Document.parse (lines ls ++ s) path = .ok e :=
    ⟨_, Document.parse_eq_ok_iff.2 ⟨_, reads_lines named hps, rfl⟩⟩
  refine ⟨e, he, ?_⟩
  rw [Document.children_of_parse he (reads_lines named hps), Layout.nodes_linePieces,
    Layout.nodes_add, Document.children_of_parse h hps]

/-- A template behind lines of directives is a template. Its nodes are the comments of the lines and
the nodes of the template, moved by the length of the lines. A rule finds in it what it finds in the
template, in the same order, moved by that length: in the same columns, as many lines further down. -/
theorem run_behindLines {s : Text} {path : Option String} {d : Document}
    {ls : List (String × Nat)} (named : ∀ l ∈ ls, Commentable l.1)
    (h : Document.parse s path = .ok d) :
    ∃ e, Document.parse (lines ls ++ s) path = .ok e ∧
      e.children =
        Layout.behindLines 0 ls (d.children.map (Node.shift (lines ls).length)) ∧
      (∀ r ∈ shippedRules, ∀ fs, r.rule.run d = .ok fs →
        r.rule.run e = .ok (fs.map (Finding.shift (lines ls).length))) ∧
      ∀ pos : Nat, (lines ls ++ s).place (pos + (lines ls).length : Nat) =
        ⟨(s.place pos).line + ls.length, (s.place pos).column⟩ := by
  obtain ⟨ps, hps, -⟩ := Document.parse_eq_ok_iff.1 h
  obtain ⟨e, he, behind⟩ := exists_parse_behindLines named h
  refine ⟨e, he, behind, ?_, place_lines (fun l hl => (named l hl).1) s⟩
  intro r hr fs hrun
  refine run_shifted hr ?_ hrun
  rw [behind, Document.children_of_parse h hps]
  refine MovedNodes.behindLines (.moved ?_) ls 0
  rw [List.forall₂_map_right_iff, List.forall₂_same]
  exact movedNode_shift (K := (· = ((lines ls).length : Int))) rfl 0 ps

/-- Some text and a generic link. -/
def textAndLink : Text :=
  "See <a>More</a>".toList

/-- A generic link is found behind two lines as it is found without them. -/
theorem run_behindLines_textAndLink :
    ∃ e, Document.parse (lines [("A#", 2), ("B", 0)] ++ textAndLink) none = .ok e ∧
      LinkText.run e = .ok [Rule.finding LinkText.id LinkText.message ⟨75, 82⟩] := by
  have found : ((Document.parse textAndLink none).toOption.bind fun d =>
      (LinkText.run d).toOption) =
        some [Rule.finding LinkText.id LinkText.message ⟨4, 11⟩] := by
    decide +kernel
  obtain ⟨d, hparse, hd⟩ := Option.bind_eq_some_iff.1 found
  have named : ∀ l ∈ [("A#", 2), ("B", 0)], Commentable l.1 := by decide
  obtain ⟨e, he, -, same, -⟩ := run_behindLines named (eq_ok_of_toOption hparse)
  have hlength : (lines [("A#", 2), ("B", 0)]).length = 71 := by decide +kernel
  have hrun := same _ List.mem_cons_self _ (eq_ok_of_toOption hd)
  rw [hlength] at hrun
  exact ⟨e, he, hrun⟩

end MarkupAudit
