import MarkupAudit.Proofs.Settings.Grammar
import MarkupAudit.Proofs.Text.Encoding

/-!
# Loading settings files

What loading a file over settings comes to, by what the file holds (`Settings.load_laws`). A file
that cannot be read, or that does not hold an object, leaves the settings as they are. An object
is merged over them.

There is more that can happen. Bytes that are no text, whole numbers with too many digits and
lists and objects that are nested too deep are errors, but the settings stay as they are. If a
value of the object is nested too deep to be copied, this is an error as well, and what stands
before the value has been merged.
-/

namespace MarkupAudit

namespace Settings

variable {base given : Entries} {file : Option (List UInt8)} {text : Text} {limit n : Nat}

/-- A text that holds an object, within the bounds of a reader. -/
def HoldsObject (text : Text) (given : Entries) : Prop :=
  Json.Holds NumeralTooLong.limit Json.maxDepth text (.object given)

/-- What loading a file over settings comes to. -/
structure Loads (base : Entries) (file : Option (List UInt8)) (c : Change) : Prop where
  merged : ∀ {text given}, file = some (Text.toUtf8 text) → HoldsObject text given →
    CopiesShallow 0 base given → c = ⟨.object (Entries.merge base given), .ok true, []⟩
  halted : ∀ {text given}, file = some (Text.toUtf8 text) → HoldsObject text given →
    ¬ CopiesShallow 0 base given → ∃ front : Entries, front.map Prod.fst <+: given.map Prod.fst ∧
      c = ⟨.object (Entries.merge base front), .error .copy, []⟩
  oversize : ∀ {text given limit n}, file = some (Text.toUtf8 text) →
    Json.Holds limit n text (.object given) → (∀ es, ¬ HoldsObject text es) →
    (∃ f, c = ⟨.object base, .error (.numeral f), []⟩) ∨
      ∃ innermost, c = ⟨.object base, .error (.nesting innermost), []⟩
  notText : ∀ {bytes}, file = some bytes → (∀ text, bytes ≠ Text.toUtf8 text) →
    ∃ f, c = ⟨.object base, .error (.encoding f), []⟩
  refused : (∀ bytes, file = some bytes → ∃ text, bytes = Text.toUtf8 text) →
    (∀ text given limit n, file = some (Text.toUtf8 text) →
      ¬ Json.Holds limit n text (.object given)) →
    c.settings = .object base ∧
      (c.outcome = .ok false ∨ ∃ text, file = some (Text.toUtf8 text) ∧
        (Json.LongRun text ∧ (∃ f, c.outcome = .error (.numeral f)) ∨
          Json.maxDepth < Json.opened text ∧ ∃ innermost, c.outcome = .error (.nesting innermost)))

/-- What the text of a file is read as decides what loading the file comes to. -/
theorem load_text (base : Entries) (text : Text) :
    load (.object base) (some (Text.toUtf8 text)) =
      match Json.parse text with
      | .error .invalid => ⟨.object base, .ok false, [.unreadable]⟩
      | .error (.numeral f) => ⟨.object base, .error (.numeral f), []⟩
      | .error (.nesting innermost) => ⟨.object base, .error (.nesting innermost), []⟩
      | .ok (.object given) => overlay (.object base) given
      | .ok _ => ⟨.object base, .ok false, [.notAnObject]⟩ := by
  rw [load, read, Utf8.decode_eq_ok_iff.2 rfl]
  dsimp only
  rcases Json.parse text with (_ | f | innermost) | (a | items | given) <;> rfl

theorem parse_of_holdsObject (h : HoldsObject text given) :
    Json.parse text = .ok (.object given) := by
  rcases Json.parse_yields h with hok | ⟨hbeyond, -⟩
  · exact hok
  · exact absurd ⟨Nat.le_refl _, Nat.le_refl _⟩ hbeyond

theorem load_of_holdsObject (h : HoldsObject text given) :
    load (.object base) (some (Text.toUtf8 text)) = overlay (.object base) given := by
  rw [load_text, parse_of_holdsObject h]

/-- A file is loaded as it should be, unless it goes beyond a bound. -/
theorem load_laws (base : Entries) (file : Option (List UInt8)) :
    Loads base file (load (.object base) file) where
  merged hfile hobject hshallow := by
    have hjson := Value.isJson_object.1 (Json.Holds.isJson hobject)
    rw [hfile, load_of_holdsObject hobject]
    exact overlay_of_copied ((copied_iff_shallow hjson).2 hshallow)
  halted hfile hobject hdeep := by
    have hjson := Value.isJson_object.1 (Json.Holds.isJson hobject)
    rw [hfile, load_of_holdsObject hobject]
    exact ⟨_, Entries.keys_copied 0 base _,
      overlay_of_not_copied (mt (copied_iff_shallow hjson).1 hdeep)⟩
  oversize {text given limit n} hfile hobject hbeyond := by
    rw [hfile, load_text]
    rcases Json.parse_yields hobject with hok | ⟨-, fault, herror, hne⟩
    · exact absurd (Json.holds_of_parse hok) (hbeyond given)
    · rw [herror]
      cases fault with
      | invalid => exact absurd rfl hne
      | numeral f => exact .inl ⟨f, rfl⟩
      | nesting innermost => exact .inr ⟨innermost, rfl⟩
  notText {bytes} hfile hno := by
    rw [hfile, load, read]
    cases hdecode : Utf8.decode bytes with
    | error f => exact ⟨f, rfl⟩
    | ok text => exact absurd (Utf8.decode_eq_ok_iff.1 hdecode) (hno text)
  refused htext hno := by
    cases file with
    | none => exact ⟨rfl, .inl rfl⟩
    | some bytes =>
        obtain ⟨text, rfl⟩ := htext bytes rfl
        rw [load_text]
        cases hparse : Json.parse text with
        | error fault =>
            have hreason := Json.oversize_of_parse hparse
            cases fault with
            | invalid => exact ⟨rfl, .inl rfl⟩
            | numeral f => exact ⟨rfl, .inr ⟨text, rfl, .inl ⟨hreason, f, rfl⟩⟩⟩
            | nesting innermost =>
                rw [Json.Oversize, Nat.zero_add] at hreason
                exact ⟨rfl, .inr ⟨text, rfl, .inr ⟨hreason, innermost, rfl⟩⟩⟩
        | ok v =>
            cases v with
            | scalar a => exact ⟨rfl, .inl rfl⟩
            | list items => exact ⟨rfl, .inl rfl⟩
            | object given => exact absurd (Json.holds_of_parse hparse) (hno text given _ _ rfl)

/-- A text that holds an object with a single key. -/
theorem holdsObject_singleKey :
    HoldsObject ['\x7b', '"', 'a', '"', ':', ' ', '1', '\x7d'] [(.key "a", .int 1)] := by
  have key : Json.Spells ['a'] (CodeText.ofString "a") :=
    .char (by decide) (by decide) (by decide) .nil
  have one : Json.Number NumeralTooLong.limit false ['1'] (.int 1) :=
    .int (.inr ⟨⟨by simp, by simp [Text.isAsciiDigit]⟩, by simp⟩) (by decide)
  have value : Json.Holds NumeralTooLong.limit 988 [' ', '1'] (.int 1) :=
    .mk (b := [' ']) (by simp [Json.Blanks, Json.isSpace]) (.plain (.unsigned one)) Json.blanks_nil
  have entry : Json.WritesMembers NumeralTooLong.limit 988 ['"', 'a', '"', ':', ' ', '1']
      [(CodeText.ofString "a", .int 1)] :=
    .last (b := []) (k := ['a']) Json.blanks_nil key Json.blanks_nil value
  exact .mk (b := []) Json.blanks_nil (.object entry) Json.blanks_nil

/-- An object is merged over settings. Where a byte of another encoding stands in its text,
loading the file is an error. -/
theorem load_laws_singleKey :
    load (.object twoKeys)
        (some (Text.toUtf8 ['\x7b', '"', 'a', '"', ':', ' ', '1', '\x7d'])) =
          ⟨.object (Entries.merge twoKeys [(.key "a", .int 1)]), .ok true, []⟩ ∧
      ∃ f, load (.object twoKeys)
          (some [0x7b, 0x22, 0x61, 0x22, 0x3a, 0x20, 0x22, 0xe9, 0x22, 0x7d]) =
        ⟨.object twoKeys, .error (.encoding f), []⟩ := by
  constructor
  · exact (load_laws _ _).merged rfl holdsObject_singleKey (copiesShallow_of_copied rfl)
  · refine (load_laws _ _).notText rfl fun text htext => ?_
    have hdecode := Utf8.decode_eq_ok_iff.2 htext
    cases hdecode

end Settings

end MarkupAudit
