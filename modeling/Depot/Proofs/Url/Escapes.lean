import Depot.Url.Segment

/-!
# Escapes are read back

The set of a name keeps no `%`, so that every `%` of an encoded name starts an escape. Reading the
escapes gives the octets of the name back (`octets_encode`), and with them the name
(`decode_encode`). Two consequences carry everything about names below a reference:

* different names are encoded differently (`encode_injective`);
* only the names of one and of two dots are encoded as such, whatever other spellings of a dot
  there are (`eq_dot_of_isHere`, `eq_dots_of_isAbove`).

The spellings of one dot and of two that reading a path knows are all that there are: a text reads
as dots if and only if it is one of them (`decode_eq_dot_iff`, `decode_eq_dots_iff`).
-/

namespace Depot.Url.Percent

/-! ## What is kept is no space and no control character -/

theorem lt_toNat_of_plain {c : Char} (h : plain c = true) (hs : c ≠ ' ') : 0x20 < c.toNat := by
  simp only [plain, Bool.and_eq_true, decide_eq_true_eq] at h
  have hne : c.toNat ≠ 0x20 := by
    intro e
    have hc := Char.ofNat_toNat c
    rw [e] at hc
    exact hs hc.symm
  omega

theorem lt_toNat_of_inFragment {c : Char} (h : inFragment c = true) : 0x20 < c.toNat := by
  simp only [inFragment, Bool.and_eq_true, Bool.not_eq_true', Bool.or_eq_false_iff,
    beq_eq_false_iff_ne] at h
  exact lt_toNat_of_plain h.1 h.2.1.1.1.1

theorem lt_toNat_of_inQuery {c : Char} (h : inQuery c = true) : 0x20 < c.toNat := by
  simp only [inQuery, Bool.and_eq_true, Bool.not_eq_true', Bool.or_eq_false_iff,
    beq_eq_false_iff_ne] at h
  exact lt_toNat_of_plain h.1 h.2.1.1.1.1

/-! ## What is encoded is there -/

/-- What is encoded starts with its first character if that one is kept, and with an escape if it
is not. -/
theorem exists_encode_cons (keeps : Char → Bool) (c : Char) (cs : List Char) :
    ∃ d rest, encode keeps (c :: cs) = d :: rest ∧ (d = c ∧ keeps c = true ∨ d = '%') := by
  rw [encode, List.flatMap_cons]
  by_cases hc : keeps c = true
  · exact ⟨c, _, by rw [if_pos hc]; rfl, Or.inl ⟨rfl, hc⟩⟩
  · have hne : String.utf8EncodeChar c ≠ [] := by
      intro h
      have hlength := congrArg List.length h
      rw [String.length_utf8EncodeChar] at hlength
      exact absurd hlength (Nat.ne_of_gt c.utf8Size_pos)
    obtain ⟨b, bs, hbs⟩ := List.exists_cons_of_ne_nil hne
    exact ⟨'%', _, by rw [if_neg hc, hbs]; rfl, Or.inr rfl⟩

theorem eq_nil_of_encode {keeps : Char → Bool} {cs : List Char}
    (h : String.ofList (encode keeps cs) = "") : cs = [] := by
  cases cs with
  | nil => rfl
  | cons c cs =>
    obtain ⟨d, rest, hd, -⟩ := exists_encode_cons keeps c cs
    rw [hd] at h
    simp at h

/-! ## Digits and octets -/

theorem hexValue_hexDigit {n : Nat} (h : n < 16) : Text.hexValue? (hexDigit n) = some n := by
  have all : ∀ m : Fin 16, Text.hexValue? (hexDigit m) = some m.val := by decide
  exact all ⟨n, h⟩

/-- An escape stands for its octet. -/
theorem octets_escape (b : UInt8) (cs : List Char) : octets (escape b ++ cs) = b :: octets cs := by
  have hb : b.toNat < 256 := b.toNat_lt
  have high := hexValue_hexDigit (n := b.toNat / 16) (by omega)
  have low := hexValue_hexDigit (n := b.toNat % 16) (by omega)
  have hsum : 16 * (b.toNat / 16) + b.toNat % 16 = b.toNat := by omega
  simp only [escape, List.cons_append, List.nil_append, octets, high, low, hsum]
  rw [UInt8.ofNat_toNat]

theorem octets_escapes (bs : List UInt8) (cs : List Char) :
    octets (bs.flatMap escape ++ cs) = bs ++ octets cs := by
  induction bs with
  | nil => rfl
  | cons b bs ih => rw [List.flatMap_cons, List.append_assoc, octets_escape, ih, List.cons_append]

/-- Any character but `%` stands for itself. -/
theorem octets_cons {c : Char} (h : c ≠ '%') (cs : List Char) :
    octets (c :: cs) = String.utf8EncodeChar c ++ octets cs := by
  rw [octets]
  intro _ _ _ e
  exact absurd e h

/-! ## Names -/

theorem ne_percent_of_inName {c : Char} (h : inName c = true) : c ≠ '%' := by
  rintro rfl
  exact absurd h (by decide)

/-- The escapes of an encoded name stand for the octets of the name. -/
theorem octets_encode (cs : List Char) : octets (encode inName cs) = Text.Utf8.encode cs := by
  induction cs with
  | nil => rfl
  | cons c cs ih =>
    -- A character stands for its octets, whether it is kept or escaped octet by octet.
    simp only [encode, Text.Utf8.encode, List.flatMap_cons] at ih ⊢
    by_cases hc : inName c = true
    · rw [if_pos hc, List.singleton_append, octets_cons (ne_percent_of_inName hc), ih]
    · rw [if_neg hc, octets_escapes, ih]

theorem utf8Decode_encode (cs : List Char) :
    Text.Utf8.decode? (Text.Utf8.encode cs) = some cs := by
  show (List.utf8Encode cs).utf8Decode?.map Array.toList = some cs
  rw [List.utf8Decode?_utf8Encode]
  rfl

/-- An encoded name is read as the name. -/
theorem decode_encode (name : String) :
    decode (String.ofList (encode inName name.toList)) = name := by
  unfold decode decode?
  rw [String.toList_ofList, octets_encode, utf8Decode_encode]
  simp [String.ofList_toList]

/-- The octets of a text determine it. -/
theorem utf8Encode_injective {cs ds : List Char}
    (h : Text.Utf8.encode cs = Text.Utf8.encode ds) : cs = ds := by
  have hcs := utf8Decode_encode cs
  rw [h, utf8Decode_encode] at hcs
  exact (Option.some.inj hcs).symm

/-- Different names are encoded differently. -/
theorem encode_injective {cs ds : List Char} (h : encode inName cs = encode inName ds) :
    cs = ds := by
  apply utf8Encode_injective
  rw [← octets_encode, h, octets_encode]

/-! ## Dots -/

/-- However a dot is spelled, it stands for the octet of a dot. -/
theorem octets_of_afterDot {cs rest : List Char} (h : afterDot? cs = some rest) :
    octets cs = UInt8.ofNat '.'.toNat :: octets rest := by
  unfold afterDot? at h
  -- A dot as such, and its escape with a small or a capital letter.
  split at h
  · rw [← Option.some.inj h]; rfl
  · rw [← Option.some.inj h]; rfl
  · rw [← Option.some.inj h]; rfl
  · cases h

/-- The octet of a dot starts nothing but a dot. -/
theorem eq_dot_of_utf8EncodeChar {c : Char} {bs ds : List UInt8}
    (h : String.utf8EncodeChar c ++ bs = UInt8.ofNat '.'.toNat :: ds) : c = '.' ∧ bs = ds := by
  have hdot : UInt8.ofNat '.'.toNat :: ds = String.utf8EncodeChar '.' ++ ds := rfl
  have hread := congrArg (fun octets => octets.toByteArray.utf8DecodeChar? 0) (h.trans hdot)
  simp only [List.toByteArray_append, ByteArray.utf8DecodeChar?_utf8EncodeChar_append,
    Option.some.injEq] at hread
  subst hread
  exact ⟨rfl, (List.cons.inj h).2⟩

/-- The digits of a dot are the only ones of their values. -/
theorem digit_of_hexValue {c : Char} {n : Nat} (h : Text.hexValue? c = some n) :
    n < 16 ∧ (n = 2 → c = '2') ∧ (n = 14 → c = 'e' ∨ c = 'E') := by
  have hascii : c.toNat < 128 := by
    unfold Text.hexValue? at h
    split at h
    · next hc => exact Nat.lt_of_le_of_lt (show c.toNat ≤ '9'.toNat from hc.2) (by decide)
    · split at h
      · next hc => exact Nat.lt_of_le_of_lt (show c.toNat ≤ 'F'.toNat from hc.2) (by decide)
      · split at h
        · next hc => exact Nat.lt_of_le_of_lt (show c.toNat ≤ 'f'.toNat from hc.2) (by decide)
        · cases h
  have all := Text.of_all_ascii (c := c) (p := fun c => (Text.hexValue? c).all fun n =>
    n < 16 ∧ (n = 2 → c = '2') ∧ (n = 14 → c = 'e' ∨ c = 'E')) (by decide) hascii
  rw [h, Option.all_some, decide_eq_true_iff] at all
  exact all

/-- What stands for the octet of a dot and more is a spelling of a dot and more. -/
theorem exists_afterDot_of_octets {cs : List Char} {bs : List UInt8}
    (h : octets cs = UInt8.ofNat '.'.toNat :: bs) :
    ∃ rest, afterDot? cs = some rest ∧ octets rest = bs := by
  unfold octets at h
  split at h
  · cases h
  · next high low cs =>
    split at h
    · next a b ha hb =>
      obtain ⟨hvalue, hrest⟩ := List.cons.inj h
      obtain ⟨ha16, ha2, -⟩ := digit_of_hexValue ha
      obtain ⟨hb16, -, hb14⟩ := digit_of_hexValue hb
      have hsum : 16 * a + b = 46 := by
        have hnat := congrArg UInt8.toNat hvalue
        simp only [UInt8.toNat_ofNat'] at hnat
        have hdot : '.'.toNat = 46 := rfl
        omega
      -- The value of a dot, 2 × 16 + 14, is written in two ways.
      obtain rfl := ha2 (by omega)
      rcases hb14 (by omega) with rfl | rfl
      · exact ⟨cs, rfl, hrest⟩
      · exact ⟨cs, rfl, hrest⟩
    · exact absurd (List.cons.inj h).1 (by decide)
  · next c cs _ =>
    obtain ⟨rfl, hrest⟩ := eq_dot_of_utf8EncodeChar h
    exact ⟨cs, rfl, hrest⟩

theorem utf8Encode_of_decode {bs : List UInt8} {cs : List Char}
    (h : Text.Utf8.decode? bs = some cs) : bs = Text.Utf8.encode cs := by
  obtain ⟨chars, hchars, rfl⟩ := Option.map_eq_some_iff.1 h
  have hencode := ByteArray.utf8Encode_get_utf8Decode? (b := bs.toByteArray)
    (h := by rw [hchars]; rfl)
  simp only [hchars, Option.get_some, List.utf8Encode] at hencode
  exact (List.toByteArray_inj.1 hencode).symm

theorem eq_nil_of_octets {cs : List Char} (h : octets cs = []) : cs = [] := by
  unfold octets at h
  split at h
  · rfl
  · split at h <;> cases h
  · exact absurd (List.append_eq_nil_iff.1 h).1 String.utf8EncodeChar_ne_nil

theorem eq_dot_of_isHere {cs : List Char} (h : isHere (encode inName cs) = true) : cs = ['.'] := by
  have hdot := octets_of_afterDot (beq_iff_eq.1 h)
  apply utf8Encode_injective
  rw [← octets_encode, hdot]
  rfl

theorem eq_dots_of_isAbove {cs : List Char} (h : isAbove (encode inName cs) = true) :
    cs = ['.', '.'] := by
  obtain ⟨rest, hfirst, hsecond⟩ := Option.bind_eq_some_iff.1 (beq_iff_eq.1 h)
  apply utf8Encode_injective
  rw [← octets_encode, octets_of_afterDot hfirst, octets_of_afterDot hsecond]
  rfl

/-- A text that reads as another one is that text, or its escapes stand for the octets of it. -/
theorem octets_of_decode {s t : String} (h : decode s = t) :
    s = t ∨ octets s.toList = Text.Utf8.encode t.toList := by
  unfold decode decode? at h
  cases hread : Text.Utf8.decode? (octets s.toList) with
  | none =>
    rw [hread] at h
    exact Or.inl h
  | some cs =>
    rw [hread] at h
    rw [utf8Encode_of_decode hread, ← h]
    simp

theorem decode_of_octets {s t : String} (h : octets s.toList = Text.Utf8.encode t.toList) :
    decode s = t := by
  unfold decode decode?
  rw [h, utf8Decode_encode]
  simp

/-- One dot is read from its spellings only. -/
theorem decode_eq_dot_iff {s : String} : decode s = "." ↔ isHere s.toList = true := by
  constructor
  · intro h
    rcases octets_of_decode h with rfl | hoctets
    · rfl
    · obtain ⟨rest, hdot, hrest⟩ := exists_afterDot_of_octets hoctets
      rw [isHere, hdot, eq_nil_of_octets hrest]
      rfl
  · intro h
    refine decode_of_octets ?_
    rw [octets_of_afterDot (beq_iff_eq.1 h)]
    rfl

/-- Two dots are read from their spellings only. -/
theorem decode_eq_dots_iff {s : String} : decode s = ".." ↔ isAbove s.toList = true := by
  constructor
  · intro h
    rcases octets_of_decode h with rfl | hoctets
    · rfl
    · obtain ⟨second, hfirst, hoctets⟩ := exists_afterDot_of_octets hoctets
      obtain ⟨rest, hsecond, hrest⟩ := exists_afterDot_of_octets hoctets
      rw [isAbove, hfirst, Option.bind_some, hsecond, eq_nil_of_octets hrest]
      rfl
  · intro h
    obtain ⟨second, hfirst, hsecond⟩ := Option.bind_eq_some_iff.1 (beq_iff_eq.1 h)
    refine decode_of_octets ?_
    rw [octets_of_afterDot hfirst, octets_of_afterDot hsecond]
    rfl

end Depot.Url.Percent
