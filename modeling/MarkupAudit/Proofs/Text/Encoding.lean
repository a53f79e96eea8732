import MarkupAudit.Text.Utf8

/-!
# Bytes that are read as text

Bytes that can be read are the encoding of the text that was read (`Utf8.toUtf8_of_decode`): a reader
accepts a byte of a character only if the character that it comes to is encoded by the bytes read
(`Utf8.Begun`). So nothing is lost between the bytes of a file and its text. Different texts have
different encodings (`Text.toUtf8_injective`), and each encoding can be read: the bytes of a text are
exactly those from which it is read (`Utf8.decode_eq_ok_iff`).
-/

namespace MarkupAudit

namespace Text

theorem toUtf8_cons (c : Char) (s : Text) :
    toUtf8 (c :: s) = String.utf8EncodeChar c ++ toUtf8 s :=
  List.flatMap_cons

theorem toUtf8_append (s t : Text) : toUtf8 (s ++ t) = toUtf8 s ++ toUtf8 t :=
  List.flatMap_append

theorem toUtf8_injective {s t : Text} (h : toUtf8 s = toUtf8 t) : s = t := by
  have hbytes : s.utf8Encode = t.utf8Encode := congrArg List.toByteArray h
  have hdecode := congrArg ByteArray.utf8Decode? hbytes
  rw [List.utf8Decode?_utf8Encode, List.utf8Decode?_utf8Encode] at hdecode
  exact List.toArray_inj (Option.some.inj hdecode)

end Text

namespace Utf8

/-! ### What may follow the first byte of a character -/

/-- Bytes that complete a character: the first lies in a given range, the others continue it. -/
def Completes (lo hi : UInt8) : (more : Nat) → List UInt8 → Prop
  | 0, tail => tail = []
  | _ + 1, [] => False
  | more + 1, b :: tail => lo ≤ b ∧ b ≤ hi ∧ Completes 0x80 0xBF more tail

/-- The number of a character by what its first bytes say and the bytes that complete it. -/
def extended (value : Nat) (tail : List UInt8) : Nat :=
  tail.foldl (fun value b => value * 64 + (b.toNat - 0x80)) value

/-- A reader in the middle of a character: bytes are to come, and all that it accepts give the character
that is encoded by the bytes seen and them. -/
structure Begun (st : State) : Prop where
  more : st.more ≠ 0
  encoded : ∀ tail, Completes st.lo st.hi st.more tail →
    String.utf8EncodeChar (Char.ofNat (extended st.value tail)) = st.seen.reverse ++ tail

/-! ### The bytes of a character -/

theorem val_ofNat {v : Nat} (h : v.isValidChar) : (Char.ofNat v).val.toNat = v := by
  rw [Char.ofNat, dif_pos h]
  rfl

theorem ofNat_eq {n : Nat} {b : UInt8} (h : n = b.toNat) : UInt8.ofNat n = b := by
  rw [h, UInt8.ofNat_toNat]

theorem encode_one {b : UInt8} (hb : b.toNat < 0x80) :
    String.utf8EncodeChar (Char.ofNat b.toNat) = [b] := by
  rw [String.utf8EncodeChar, val_ofNat (.inl (by omega)), if_pos (by omega), ofNat_eq rfl]

theorem encode_two {b c : UInt8} {v : Nat} (hb : 0xC2 ≤ b.toNat) (hb' : b.toNat < 0xE0)
    (hc : 0x80 ≤ c.toNat) (hc' : c.toNat ≤ 0xBF)
    (hv : v = (b.toNat - 0xC0) * 64 + (c.toNat - 0x80)) :
    String.utf8EncodeChar (Char.ofNat v) = [b, c] := by
  rw [String.utf8EncodeChar, val_ofNat (.inl (by omega)), if_neg (by omega), if_pos (by omega),
    ofNat_eq (b := b) (by omega), ofNat_eq (b := c) (by omega)]

theorem encode_three {b c d : UInt8} {v : Nat} (hb : 0xE0 ≤ b.toNat) (hb' : b.toNat < 0xF0)
    (hc : 0x80 ≤ c.toNat) (hc' : c.toNat ≤ 0xBF) (hd : 0x80 ≤ d.toNat) (hd' : d.toNat ≤ 0xBF)
    (long : b.toNat = 0xE0 → 0xA0 ≤ c.toNat) (single : b.toNat = 0xED → c.toNat ≤ 0x9F)
    (hv : v = ((b.toNat - 0xE0) * 64 + (c.toNat - 0x80)) * 64 + (d.toNat - 0x80)) :
    String.utf8EncodeChar (Char.ofNat v) = [b, c, d] := by
  have valid : v.isValidChar := by
    unfold Nat.isValidChar
    omega
  rw [String.utf8EncodeChar, val_ofNat valid, if_neg (by omega), if_neg (by omega),
    if_pos (by omega), ofNat_eq (b := b) (by omega), ofNat_eq (b := c) (by omega),
    ofNat_eq (b := d) (by omega)]

theorem encode_four {b c d e : UInt8} {v : Nat} (hb : 0xF0 ≤ b.toNat) (hb' : b.toNat < 0xF5)
    (hc : 0x80 ≤ c.toNat) (hc' : c.toNat ≤ 0xBF) (hd : 0x80 ≤ d.toNat) (hd' : d.toNat ≤ 0xBF)
    (he : 0x80 ≤ e.toNat) (he' : e.toNat ≤ 0xBF)
    (long : b.toNat = 0xF0 → 0x90 ≤ c.toNat) (last : b.toNat = 0xF4 → c.toNat ≤ 0x8F)
    (hv : v = (((b.toNat - 0xF0) * 64 + (c.toNat - 0x80)) * 64 + (d.toNat - 0x80)) * 64 +
      (e.toNat - 0x80)) :
    String.utf8EncodeChar (Char.ofNat v) = [b, c, d, e] := by
  have valid : v.isValidChar := by
    unfold Nat.isValidChar
    omega
  rw [String.utf8EncodeChar, val_ofNat valid, if_neg (by omega), if_neg (by omega),
    if_neg (by omega), ofNat_eq (b := b) (by omega), ofNat_eq (b := c) (by omega),
    ofNat_eq (b := d) (by omega), ofNat_eq (b := e) (by omega)]

/-- What the first byte of a character says: how many bytes follow, and how the second is bounded so that
no character has two encodings and all of them are characters. -/
theorem lead?_cases {b : UInt8} {l : Lead} (h : lead? b = some l) :
    b.toNat < 0x80 ∧ l = ⟨0, b.toNat, 0x80, 0xBF⟩ ∨
    (0xC2 ≤ b.toNat ∧ b.toNat < 0xE0) ∧ l = ⟨1, b.toNat - 0xC0, 0x80, 0xBF⟩ ∨
    (0xE0 ≤ b.toNat ∧ b.toNat < 0xF0) ∧
      l = ⟨2, b.toNat - 0xE0, if b.toNat = 0xE0 then 0xA0 else 0x80,
        if b.toNat = 0xED then 0x9F else 0xBF⟩ ∨
    (0xF0 ≤ b.toNat ∧ b.toNat < 0xF5) ∧
      l = ⟨3, b.toNat - 0xF0, if b.toNat = 0xF0 then 0x90 else 0x80,
        if b.toNat = 0xF4 then 0x8F else 0xBF⟩ := by
  unfold lead? at h
  simp only at h
  split at h
  · exact .inl ⟨by assumption, (Option.some.inj h).symm⟩
  · split at h
    · cases h
    · split at h
      · exact .inr (.inl ⟨by omega, (Option.some.inj h).symm⟩)
      · split at h
        · exact .inr (.inr (.inl ⟨by omega, (Option.some.inj h).symm⟩))
        · split at h
          · exact .inr (.inr (.inr ⟨by omega, (Option.some.inj h).symm⟩))
          · cases h

theorem completes_succ_iff {lo hi : UInt8} {more : Nat} {tail : List UInt8} :
    Completes lo hi (more + 1) tail ↔
      ∃ b rest, tail = b :: rest ∧ lo.toNat ≤ b.toNat ∧ b.toNat ≤ hi.toNat ∧
        Completes 0x80 0xBF more rest := by
  cases tail with
  | nil => simp [Completes]
  | cons b rest =>
      rw [Completes, UInt8.le_iff_toNat_le, UInt8.le_iff_toNat_le]
      constructor
      · exact fun h => ⟨b, rest, rfl, h⟩
      · rintro ⟨_, _, heq, h⟩
        cases heq
        exact h

theorem completes_zero_iff {lo hi : UInt8} {tail : List UInt8} :
    Completes lo hi 0 tail ↔ tail = [] :=
  Iff.rfl

theorem begun_of_lead {b : UInt8} {l : Lead} (h : lead? b = some l) (hmore : l.more ≠ 0) :
    Begun ⟨[b], l.bits, l.more, l.lo, l.hi⟩ := by
  refine ⟨hmore, fun tail htail => ?_⟩
  rcases lead?_cases h with ⟨-, rfl⟩ | ⟨hb, rfl⟩ | ⟨hb, rfl⟩ | ⟨hb, rfl⟩
  · contradiction
  · simp only [completes_succ_iff, completes_zero_iff] at htail
    obtain ⟨c, _, rfl, hlo, hhi, rfl⟩ := htail
    exact encode_two hb.1 hb.2 hlo hhi rfl
  · simp only [completes_succ_iff, completes_zero_iff] at htail
    obtain ⟨c, _, rfl, hlo, hhi, d, _, rfl, hlo', hhi', rfl⟩ := htail
    have hc : 0x80 ≤ c.toNat ∧ (b.toNat = 0xE0 → 0xA0 ≤ c.toNat) := by
      split at hlo <;> simp at hlo <;> omega
    have hc' : c.toNat ≤ 0xBF ∧ (b.toNat = 0xED → c.toNat ≤ 0x9F) := by
      split at hhi <;> simp at hhi <;> omega
    exact encode_three hb.1 hb.2 hc.1 hc'.1 hlo' hhi' hc.2 hc'.2 rfl
  · simp only [completes_succ_iff, completes_zero_iff] at htail
    obtain ⟨c, _, rfl, hlo, hhi, d, _, rfl, hlo', hhi', e, _, rfl, hlo'', hhi'', rfl⟩ := htail
    have hc : 0x80 ≤ c.toNat ∧ (b.toNat = 0xF0 → 0x90 ≤ c.toNat) := by
      split at hlo <;> simp at hlo <;> omega
    have hc' : c.toNat ≤ 0xBF ∧ (b.toNat = 0xF4 → c.toNat ≤ 0x8F) := by
      split at hhi <;> simp at hhi <;> omega
    exact encode_four hb.1 hb.2 hc.1 hc'.1 hlo' hhi' hlo'' hhi'' hc.2 hc'.2 rfl

/-! ### Reading -/

section Reading

variable {st : State} {b : UInt8}

/-- One more byte of a character, but not the last. -/
theorem Begun.next (h : Begun st) (inRange : st.lo ≤ b ∧ b ≤ st.hi) (hmore : st.more ≠ 1) :
    Begun ⟨b :: st.seen, st.value * 64 + (b.toNat - 0x80), st.more - 1, 0x80, 0xBF⟩ := by
  obtain ⟨more, hst⟩ : ∃ more, st.more = more + 1 := Nat.exists_eq_succ_of_ne_zero h.more
  refine ⟨by simp only; omega, fun tail htail => ?_⟩
  rw [hst, Nat.add_sub_cancel] at htail
  have whole := h.encoded (b :: tail) (hst ▸ ⟨inRange.1, inRange.2, htail⟩)
  rw [extended, List.foldl_cons] at whole
  rw [extended, whole, List.reverse_cons, List.append_assoc, List.singleton_append]

/-- The last byte of a character. -/
theorem Begun.last (h : Begun st) (inRange : st.lo ≤ b ∧ b ≤ st.hi) (hmore : st.more = 1) :
    String.utf8EncodeChar (Char.ofNat (st.value * 64 + (b.toNat - 0x80))) =
      st.seen.reverse ++ [b] :=
  h.encoded [b] (hmore ▸ ⟨inRange.1, inRange.2, rfl⟩)

end Reading

theorem toUtf8_of_decodeFrom {offset : Nat} {pending : Option State} {bytes : List UInt8} {s : Text}
    (h : decodeFrom offset pending bytes = .ok s) (begun : ∀ st ∈ pending, Begun st) :
    Text.toUtf8 s = (pending.elim [] fun st => st.seen.reverse) ++ bytes := by
  induction bytes generalizing offset pending s with
  | nil =>
      cases pending with
      | none =>
          cases h
          rfl
      | some st => cases h
  | cons b bytes ih =>
      cases pending with
      | none =>
          rw [decodeFrom] at h
          split at h
          case h_1 => cases h
          case h_2 l hl =>
            split at h
            case isTrue hmore =>
              split at h
              case h_1 t ht =>
                cases h
                have rest := ih ht fun _ hnone => nomatch hnone
                rcases lead?_cases hl with ⟨hb, rfl⟩ | ⟨-, rfl⟩ | ⟨-, rfl⟩ | ⟨-, rfl⟩
                · rw [Text.toUtf8_cons, encode_one hb, rest]
                  rfl
                · contradiction
                · contradiction
                · contradiction
              case h_2 => cases h
            case isFalse hmore =>
              refine ih h fun st hst => ?_
              cases hst
              exact begun_of_lead hl hmore
      | some st =>
          have hst := begun st rfl
          rw [decodeFrom] at h
          split at h
          case isTrue hrange =>
            have inRange : st.lo ≤ b ∧ b ≤ st.hi := by simpa using hrange
            simp only at h
            split at h
            case isTrue hmore =>
              split at h
              case h_1 t ht =>
                cases h
                have rest := ih ht fun _ hnone => nomatch hnone
                rw [Text.toUtf8_cons, hst.last inRange hmore, rest, List.append_assoc]
                rfl
              case h_2 => cases h
            case isFalse hmore =>
              have rest := ih h fun st' hst' => by
                cases hst'
                exact hst.next inRange hmore
              rw [rest]
              simp
          case isFalse => cases h

/-- Bytes that can be read are the encoding of what was read. -/
theorem toUtf8_of_decode {bytes : List UInt8} {s : Text} (h : decode bytes = .ok s) :
    Text.toUtf8 s = bytes :=
  toUtf8_of_decodeFrom h fun _ hnone => nomatch hnone

/-! ### Reading what was written -/

theorem decodeFrom_completes {st : State} {tail : List UInt8} (hmore : st.more ≠ 0)
    (h : Completes st.lo st.hi st.more tail) (offset : Nat) (bytes : List UInt8) :
    decodeFrom offset (some st) (tail ++ bytes) =
      (decodeFrom (offset + tail.length) none bytes).map
        (Char.ofNat (extended st.value tail) :: ·) := by
  induction tail generalizing st offset with
  | nil =>
      obtain ⟨more, hst⟩ := Nat.exists_eq_succ_of_ne_zero hmore
      rw [hst] at h
      cases h
  | cons b tail ih =>
      obtain ⟨seen, value, more, lo, hi⟩ := st
      cases more with
      | zero => contradiction
      | succ more =>
          obtain ⟨hlo, hhi, htail⟩ := h
          have hlength : offset + (b :: tail).length = offset + 1 + tail.length := by
            rw [List.length_cons]
            omega
          rw [List.cons_append, decodeFrom, if_pos (by simp [hlo, hhi]), hlength]
          cases more with
          | zero =>
              cases htail
              rw [List.nil_append, List.length_nil, Nat.add_zero, extended, List.foldl_cons,
                List.foldl_nil]
              cases decodeFrom (offset + 1) none bytes <;> rfl
          | succ more =>
              have whole : extended value (b :: tail) =
                  extended (value * 64 + (b.toNat - 0x80)) tail := by
                rw [extended, extended, List.foldl_cons]
              simp only [Nat.add_eq_right, Nat.succ_ne_zero, if_false, Nat.add_sub_cancel, whole]
              exact @ih ⟨b :: seen, value * 64 + (b.toNat - 0x80), more + 1, 0x80, 0xBF⟩
                (Nat.succ_ne_zero more) htail (offset + 1)

section Lead

variable {b : UInt8}

theorem lead?_one (h : b.toNat < 0x80) : lead? b = some ⟨0, b.toNat, 0x80, 0xBF⟩ := by
  unfold lead?
  simp only
  rw [if_pos h]

theorem lead?_two (h : 0xC2 ≤ b.toNat) (h' : b.toNat < 0xE0) :
    lead? b = some ⟨1, b.toNat - 0xC0, 0x80, 0xBF⟩ := by
  unfold lead?
  simp only
  rw [if_neg (by omega), if_neg (by omega), if_pos h']

theorem lead?_three (h : 0xE0 ≤ b.toNat) (h' : b.toNat < 0xF0) :
    lead? b = some ⟨2, b.toNat - 0xE0, if b.toNat = 0xE0 then 0xA0 else 0x80,
      if b.toNat = 0xED then 0x9F else 0xBF⟩ := by
  unfold lead?
  simp only
  rw [if_neg (by omega), if_neg (by omega), if_neg (by omega), if_pos h']

theorem lead?_four (h : 0xF0 ≤ b.toNat) (h' : b.toNat < 0xF5) :
    lead? b = some ⟨3, b.toNat - 0xF0, if b.toNat = 0xF0 then 0x90 else 0x80,
      if b.toNat = 0xF4 then 0x8F else 0xBF⟩ := by
  unfold lead?
  simp only
  rw [if_neg (by omega), if_neg (by omega), if_neg (by omega), if_neg (by omega), if_pos h']

end Lead

theorem toNat_ofNat_byte {n : Nat} (h : n < 256) : (UInt8.ofNat n).toNat = n :=
  UInt8.toNat_ofNat_of_lt h

/-- The last six bits of a number give a byte that continues a character. -/
theorem continues (n : Nat) :
    (0x80 : UInt8).toNat ≤ (UInt8.ofNat (n % 64 + 128)).toNat ∧
      (UInt8.ofNat (n % 64 + 128)).toNat ≤ (0xBF : UInt8).toNat := by
  rw [toNat_ofNat_byte (by omega)]
  simp
  omega

/-- A character is encoded by a first byte and bytes that complete it. -/
theorem exists_lead (c : Char) :
    ∃ b tail l, String.utf8EncodeChar c = b :: tail ∧ lead? b = some l ∧
      Completes l.lo l.hi l.more tail ∧ extended l.bits tail = c.val.toNat := by
  have valid : c.val.toNat < 0xD800 ∨ 0xDFFF < c.val.toNat ∧ c.val.toNat < 0x110000 := c.valid
  unfold String.utf8EncodeChar
  generalize c.val.toNat = v at valid ⊢
  -- the value of each byte, for as many bytes as the number needs
  have hlast := toNat_ofNat_byte (n := v % 64 + 128) (by omega)
  have hthird := toNat_ofNat_byte (n := v / 64 % 64 + 128) (by omega)
  have hsecond := toNat_ofNat_byte (n := v / 4096 % 64 + 128) (by omega)
  simp only
  split
  · exact ⟨_, _, _, rfl, lead?_one (by simp; omega), rfl, toNat_ofNat_byte (by omega)⟩
  · split
    · have hb := toNat_ofNat_byte (n := v / 64 % 32 + 192) (by omega)
      refine ⟨_, _, _, rfl, lead?_two (by omega) (by omega), ?_, ?_⟩
      · simp only [completes_succ_iff, completes_zero_iff]
        exact ⟨_, _, rfl, (continues v).1, (continues v).2, rfl⟩
      · simp only [extended, List.foldl_cons, List.foldl_nil, hb, hlast]
        omega
    · split
      · have hb := toNat_ofNat_byte (n := v / 4096 % 16 + 224) (by omega)
        refine ⟨_, _, _, rfl, lead?_three (by omega) (by omega), ?_, ?_⟩
        · simp only [completes_succ_iff, completes_zero_iff]
          refine ⟨_, _, rfl, ?_, ?_, _, _, rfl, (continues v).1, (continues v).2, rfl⟩
          · rw [hb, hthird]
            split
            · simp
              omega
            · simp
          · rw [hb, hthird]
            split <;> simp <;> omega
        · simp only [extended, List.foldl_cons, List.foldl_nil, hb, hthird, hlast]
          omega
      · have hb := toNat_ofNat_byte (n := v / 262144 % 8 + 240) (by omega)
        refine ⟨_, _, _, rfl, lead?_four (by omega) (by omega), ?_, ?_⟩
        · simp only [completes_succ_iff, completes_zero_iff]
          refine ⟨_, _, rfl, ?_, ?_, _, _, rfl, (continues (v / 64)).1, (continues (v / 64)).2,
            _, _, rfl, (continues v).1, (continues v).2, rfl⟩
          · rw [hb, hsecond]
            split
            · simp
              omega
            · simp
          · rw [hb, hsecond]
            split <;> simp <;> omega
        · simp only [extended, List.foldl_cons, List.foldl_nil, hb, hsecond, hthird, hlast]
          omega

theorem decodeFrom_encode (c : Char) (offset : Nat) (bytes : List UInt8) :
    decodeFrom offset none (String.utf8EncodeChar c ++ bytes) =
      (decodeFrom (offset + (String.utf8EncodeChar c).length) none bytes).map (c :: ·) := by
  obtain ⟨b, tail, l, hencode, hlead, htail, hvalue⟩ := exists_lead c
  have hchar : Char.ofNat c.val.toNat = c := Char.ofNat_toNat c
  rw [hencode, List.cons_append, decodeFrom, hlead, List.length_cons]
  simp only
  split
  · rename_i hmore
    rw [hmore] at htail
    cases htail
    rw [← hchar, ← hvalue, extended, List.foldl_nil, List.nil_append, List.length_nil, Nat.zero_add]
    cases decodeFrom (offset + 1) none bytes <;> rfl
  · rename_i hmore
    rw [decodeFrom_completes hmore htail, hvalue, hchar, Nat.add_right_comm, Nat.add_assoc offset]

theorem decodeFrom_toUtf8 (s : Text) (offset : Nat) :
    decodeFrom offset none (Text.toUtf8 s) = .ok s := by
  induction s generalizing offset with
  | nil => rfl
  | cons c s ih =>
      rw [Text.toUtf8_cons, decodeFrom_encode, ih]
      rfl

/-- The bytes that can be read as a text are those that encode it. -/
theorem decode_eq_ok_iff {bytes : List UInt8} {s : Text} :
    decode bytes = .ok s ↔ bytes = Text.toUtf8 s := by
  constructor
  · exact fun h => (toUtf8_of_decode h).symm
  · rintro rfl
    exact decodeFrom_toUtf8 s 0

end Utf8

end MarkupAudit
