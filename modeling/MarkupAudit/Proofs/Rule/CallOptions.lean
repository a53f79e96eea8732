import Mathlib.Data.List.Flatten
import Mathlib.Data.List.Forall2
import MarkupAudit.Rule.LinkText

/-!
# Options of a call

An option of a call can be written as a keyword, as an entry of a dictionary that is spread into
the keywords, or as an entry of a dictionary among the arguments. `callOptions` lists the options
of a call without regard to how they are written. Whether a call gives its link a name is a
question about this list alone (`callNames_iff`): it does if one of the options names the link or
may do so.

So neither the order of the options nor the way they are written matters, and an option more never
takes a name away (`callNames_spelling`).
-/

namespace MarkupAudit.LinkText

/-- An option of a call: a key with its value, or one whose key is not written out. -/
inductive CallOption where
  | keyed (key : CodeText) (value : Expr)
  | unknown

/-- The option that an entry of a dictionary stands for. -/
def entryOption : Option Expr × Expr → CallOption
  | (some (.str key), value) => .keyed key value
  | _ => .unknown

/-- The options that a keyword stands for. -/
def keywordOptions : Option String × Expr → List CallOption
  | (some key, value) => [.keyed (CodeText.ofString key) value]
  | (none, .dict entries) => entries.map entryOption
  | (none, _) => [.unknown]

/-- The options that an argument stands for. -/
def argumentOptions : Expr → List CallOption
  | .dict entries => entries.map entryOption
  | _ => []

/-- All options of a call. The first argument is the text of the link. -/
def callOptions : Expr → List CallOption
  | .call _ args keywords =>
      keywords.flatMap keywordOptions ++ (args.drop 1).flatMap argumentOptions
  | _ => []

/-- A key is the name of an attribute, but may have low lines in place of hyphens. -/
def Spells (key : CodeText) (name : String) : Prop :=
  List.Forall₂ (fun p q => p = q ∨ p = CodePoint.ofChar '_' ∧ q = CodePoint.ofChar '-') key
    (CodeText.ofString name)

/-- An option under `aria` whose key is one of those that name a link, or is not written out. -/
def CallOption.NamesNested : CallOption → Prop
  | .keyed key _ => key = CodeText.ofString "label" ∨ key = CodeText.ofString "labelledby"
  | .unknown => True

/-- A value of `aria` that names a link or may do so: anything but a dictionary, or a dictionary
with such an option. -/
def AriaNames (value : Expr) : Prop :=
  ∀ entries, value = .dict entries → ∃ o ∈ entries.map entryOption, o.NamesNested

/-- An option that names a link or may do so. -/
def CallOption.Names : CallOption → Prop
  | .keyed key value =>
      Spells key "aria-label" ∨ Spells key "aria-labelledby" ∨ Spells key "aria" ∧ AriaNames value
  | .unknown => True

/-! ### Single options -/

/-- A key spells a name exactly if it is the name once its low lines are hyphens. -/
theorem attributeName_eq_iff {key : CodeText} {name : String}
    (plain : CodePoint.ofChar '_' ∉ CodeText.ofString name) :
    attributeName key = CodeText.ofString name ↔ Spells key name := by
  unfold Spells attributeName
  generalize CodeText.ofString name = codes at plain ⊢
  rw [← List.forall₂_eq_eq_eq, List.forall₂_map_left_iff]
  induction codes generalizing key with
  | nil => simp
  | cons q codes ih =>
      obtain ⟨hq, hcodes⟩ := not_or.1 (mt List.mem_cons.2 plain)
      cases key with
      | nil => simp
      | cons p key =>
          rw [List.forall₂_cons, List.forall₂_cons, ih hcodes]
          refine and_congr_left fun _ => ?_
          by_cases hp : p = CodePoint.ofChar '_'
          · rw [if_pos hp, hp, or_iff_right hq, eq_comm]
            simp
          · simp [hp]

/-- A dictionary has an entry that answers a question, or whose key is not written out, exactly if
one of the options that it stands for does. -/
theorem any_entries_iff {p : CodeText → Expr → Bool} {P : CallOption → Prop} (hunknown : P .unknown)
    (hkeyed : ∀ key value, p key value = true ↔ P (.keyed key value))
    (entries : List (Option Expr × Expr)) :
    (entries.any fun e =>
      match e.1 with
      | none => true
      | some key =>
          match key.string? with
          | none => true
          | some name => p name e.2) = true ↔ ∃ o ∈ entries.map entryOption, P o := by
  simp only [List.any_eq_true, List.mem_map, exists_exists_and_eq_and]
  refine exists_congr fun e => and_congr_right fun _ => ?_
  obtain ⟨key?, value⟩ := e
  cases key? with
  | none => exact iff_of_true rfl hunknown
  | some key =>
      cases key with
      | str name => exact hkeyed name value
      | _ => exact iff_of_true rfl hunknown

theorem ariaNames_iff {value : Expr} : ariaNames value = true ↔ AriaNames value := by
  cases value with
  | dict entries =>
      have nested : ∀ key value,
          isNestedName key = true ↔ (CallOption.keyed key value).NamesNested := by
        intro key value
        rw [isNestedName, Bool.or_eq_true, decide_eq_true_iff, decide_eq_true_iff]
        rfl
      apply (any_entries_iff (p := fun key _ => isNestedName key) trivial nested entries).trans
      constructor
      · rintro h _ ⟨⟩
        exact h
      · exact fun h => h entries rfl
  | _ => exact iff_of_true rfl fun _ h => nomatch h

theorem optionNames_iff {key : CodeText} {value : Expr} :
    optionNames key value = true ↔ (CallOption.keyed key value).Names := by
  rw [optionNames, isNameAttribute, Bool.or_eq_true, Bool.or_eq_true, Bool.and_eq_true,
    decide_eq_true_iff, decide_eq_true_iff, decide_eq_true_iff, ariaNames_iff,
    attributeName_eq_iff (by decide), attributeName_eq_iff (by decide),
    attributeName_eq_iff (by decide), or_assoc]
  rfl

theorem entriesName_iff {entries : List (Option Expr × Expr)} :
    entriesName entries = true ↔ ∃ o ∈ entries.map entryOption, o.Names :=
  any_entries_iff trivial (fun _ _ => optionNames_iff) entries

/-! ### All options of a call -/

theorem keywordNames_iff {k : Option String × Expr} :
    keywordNames k = true ↔ ∃ o ∈ keywordOptions k, o.Names := by
  obtain ⟨key?, value⟩ := k
  cases key? with
  | some key => simp [keywordNames, keywordOptions, optionNames_iff]
  | none =>
      cases value with
      | dict entries => exact entriesName_iff
      | _ => simp [keywordNames, keywordOptions, CallOption.Names]

theorem argumentNames_iff {arg : Expr} :
    argumentNames arg = true ↔ ∃ o ∈ argumentOptions arg, o.Names := by
  cases arg with
  | dict entries => exact entriesName_iff
  | _ => simp [argumentNames, argumentOptions]

/-- A call names its link, or may do so, exactly if one of its options does. -/
theorem callNames_iff {e : Expr} : callNames e = true ↔ ∃ o ∈ callOptions e, o.Names := by
  cases e with
  | call callee args keywords =>
      simp only [callNames, callOptions, Bool.or_eq_true, List.any_eq_true, keywordNames_iff,
        argumentNames_iff, List.mem_append, List.mem_flatMap]
      constructor
      · rintro (⟨k, hk, o, ho, hnames⟩ | ⟨a, ha, o, ho, hnames⟩)
        · exact ⟨o, .inl ⟨k, hk, ho⟩, hnames⟩
        · exact ⟨o, .inr ⟨a, ha, ho⟩, hnames⟩
      · rintro ⟨o, ⟨k, hk, ho⟩ | ⟨a, ha, ho⟩, hnames⟩
        · exact .inl ⟨k, hk, o, ho, hnames⟩
        · exact .inr ⟨a, ha, o, ho, hnames⟩
  | _ => simp [callNames, callOptions]

theorem callNames_mono {e e' : Expr} (h : callOptions e ⊆ callOptions e')
    (hnames : callNames e = true) : callNames e' = true := by
  rw [callNames_iff] at hnames ⊢
  obtain ⟨o, ho, hnames⟩ := hnames
  exact ⟨o, h ho, hnames⟩

/-- Calls with the same options in any order get the same answer. -/
theorem callNames_eq_of_perm {e e' : Expr} (h : (callOptions e).Perm (callOptions e')) :
    callNames e = callNames e' := by
  rw [Bool.eq_iff_iff]
  exact ⟨callNames_mono h.subset, callNames_mono h.symm.subset⟩

/-! ### Ways to write an option -/

/-- A dictionary that is written out with a single option. -/
def singleOption (key : String) (value : Expr) : Expr :=
  .dict [(some (.str (CodeText.ofString key)), value)]

theorem keywordOptions_spread (key : String) (value : Expr) :
    keywordOptions (none, singleOption key value) = keywordOptions (some key, value) :=
  rfl

theorem argumentOptions_singleOption (key : String) (value : Expr) :
    argumentOptions (singleOption key value) = keywordOptions (some key, value) :=
  rfl

/-- A keyword that is moved behind the first argument, as a dictionary, is the same option. -/
theorem callOptions_moved (callee first : Expr) (front back : List (Option String × Expr))
    (key : String) (value : Expr) (before after : List Expr) :
    (callOptions (.call callee (first :: (before ++ singleOption key value :: after))
        (front ++ back))).Perm
      (callOptions (.call callee (first :: (before ++ after))
        (front ++ (some key, value) :: back))) := by
  simp only [callOptions, List.drop_one, List.tail_cons, List.flatMap_append, List.flatMap_cons,
    argumentOptions_singleOption, List.append_assoc]
  -- the option passes the arguments before it, and then the keywords behind its old place
  refine List.Perm.append_left _ (List.Perm.trans ?_ (List.perm_append_comm_assoc ..))
  exact (List.perm_append_comm_assoc ..).append_left _

/-- Whether a call names its link, or may do so, is a question about its options. Their order
makes no difference, and neither does it whether an option is written as a keyword, spread into
the keywords or put among the arguments behind the first. An option more never takes a name away.
-/
theorem callNames_spelling (callee : Expr) (args : List Expr)
    (keywords : List (Option String × Expr)) :
    (callNames (.call callee args keywords) = true ↔
        ∃ o ∈ callOptions (.call callee args keywords), o.Names) ∧
      (∀ args' keywords', (args'.drop 1).Perm (args.drop 1) → keywords'.Perm keywords →
        callNames (.call callee args' keywords') = callNames (.call callee args keywords)) ∧
      (∀ front key value back, keywords = front ++ (some key, value) :: back →
        callNames (.call callee args (front ++ (none, singleOption key value) :: back)) =
            callNames (.call callee args keywords) ∧
          ∀ first before after, args = first :: (before ++ after) →
            callNames (.call callee (first :: (before ++ singleOption key value :: after))
              (front ++ back)) = callNames (.call callee args keywords)) ∧
      (∀ args' keywords', (args.drop 1).Sublist (args'.drop 1) → keywords.Sublist keywords' →
        callNames (.call callee args keywords) = true →
          callNames (.call callee args' keywords') = true) ∧
      ∀ e, callOptions (.call callee args keywords) ⊆ callOptions e →
        callNames (.call callee args keywords) = true → callNames e = true := by
  refine ⟨callNames_iff, ?_, ?_, ?_, fun _ => callNames_mono⟩
  · intro args' keywords' hargs hkeywords
    exact callNames_eq_of_perm ((hkeywords.flatMap_right _).append (hargs.flatMap_right _))
  · rintro front key value back rfl
    constructor
    · apply callNames_eq_of_perm
      simp only [callOptions, List.flatMap_append, List.flatMap_cons, keywordOptions_spread]
      exact .refl _
    · rintro first before after rfl
      exact callNames_eq_of_perm (callOptions_moved ..)
  · intro args' keywords' hargs hkeywords
    exact callNames_mono ((hkeywords.flatMap _).append (hargs.flatMap _)).subset

/-- A label behind another keyword: it can be spread, go among the arguments, change places with the
other keyword, and lose it. -/
theorem callNames_spelling_label :
    callNames (.call (.name "link_to") [.constant, .name "url"]
        [(some "class", .constant), (some "aria_label", .constant)]) = true ∧
      callNames (.call (.name "link_to") [.constant, .name "url"]
        [(some "class", .constant), (none, singleOption "aria_label" .constant)]) = true ∧
      callNames (.call (.name "link_to")
        [.constant, singleOption "aria_label" .constant, .name "url"]
        [(some "class", .constant)]) = true ∧
      callNames (.call (.name "link_to") [.constant, .name "url"]
        [(some "aria_label", .constant), (some "class", .constant)]) = true ∧
      callNames (.call (.name "link_to") [.constant]
        [(some "class", .constant)]) = false := by
  have alone : callNames (.call (.name "link_to") [.constant]
      [(some "aria_label", .constant)]) = true := by decide
  have named := (callNames_spelling (.name "link_to") [.constant]
    [(some "aria_label", .constant)]).2.2.2.1 [.constant, .name "url"]
      [(some "class", .constant), (some "aria_label", .constant)] (List.nil_sublist _)
      (List.sublist_cons_self _ _) alone
  obtain ⟨-, permuted, respelled, -⟩ := callNames_spelling (.name "link_to")
    [.constant, .name "url"] [(some "class", .constant), (some "aria_label", .constant)]
  obtain ⟨spread, moved⟩ := respelled [(some "class", .constant)] "aria_label" .constant [] rfl
  refine ⟨named, spread.trans named, (moved .constant [] [.name "url"] rfl).trans named, ?_, ?_⟩
  · exact (permuted [.constant, .name "url"] _ (.refl _) (List.Perm.swap ..)).trans named
  · decide

end MarkupAudit.LinkText
