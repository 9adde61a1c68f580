import Depot.Proofs.Except
import Depot.Proofs.Url.Escapes
import Depot.Url.Authority

/-!
# Authorities that name nobody

An authority of a scheme in general names nobody only if it is written with nothing but colons and
at signs (`Authority.eq_colon_or_at_of_read`). Any other one is written with a character that
neither ends an authority nor parts it, with nothing but a colon before it
(`Authority.exists_isInner_of_read`). So what is read as naming somebody and is written down names
somebody again, whatever becomes of the rest of it.
-/

namespace Depot.Url.Authority

open Percent

variable {cs : List Char} {more : Bool} {a : Authority} {left : List Char}

/-- A character that neither ends an authority nor parts it, nor is dropped from a URL. -/
def IsInner (c : Char) : Prop :=
  0x20 < c.toNat ∧ c ≠ '/' ∧ c ≠ '?' ∧ c ≠ '#' ∧ c ≠ ':' ∧ c ≠ '@'

instance (c : Char) : Decidable (IsInner c) :=
  inferInstanceAs (Decidable (_ ∧ _))

/-! ## What is read -/

theorem eq_userOf_of_readUser {before : Option (List Char)} {afterUser : List Char}
    {parts : String × String} (h : readUser before afterUser more = .ok parts) :
    parts = userOf (before.getD []) := by
  unfold readUser at h
  split at h
  · exact (Except.ok.inj h).symm
  · split at h
    · cases h
    · exact (Except.ok.inj h).symm
  · exact (Except.ok.inj h).symm

theorem plainHost_of_readHost {hostText afterHost : List Char} {host : String}
    (h : readHost .general hostText afterHost = .ok host) :
    plainHost hostText = .ok host ∧ (host = "" → afterHost = []) := by
  unfold readHost at h
  simp only [Rules.general, Bool.not_true, Bool.and_false, Bool.false_eq_true, if_false, or_false]
    at h
  obtain ⟨host', hhost, h⟩ := bind_eq_ok_iff.1 h
  split at h
  · cases h
  · next hafter =>
    cases h
    exact ⟨hhost, fun he => by simpa [he] using hafter⟩

theorem isInner_of_not_isForbidden {c : Char} (hplain : plain c = true)
    (h : isForbidden c = false) : IsInner c := by
  simp only [isForbidden, Bool.or_eq_false_iff, beq_eq_false_iff_ne, and_assoc] at h
  obtain ⟨-, -, -, -, hspace, hmark, hslash, hcolon, -, -, hquery, hat, -⟩ := h
  exact ⟨lt_toNat_of_plain hplain hspace, hslash, hquery, hmark, hcolon, hat⟩

/-- A host that is there starts with a character of its own. -/
theorem exists_isInner_of_plainHost {c : Char} {host : String}
    (h : plainHost (c :: cs) = .ok host) : ∃ d rest, host.toList = d :: rest ∧ IsInner d := by
  unfold plainHost at h
  split at h
  · next rest hbracket =>
    unfold bracketed at h
    split at h
    · split at h
      · next groups hgroups =>
        rw [← Except.ok.inj h]
        exact ⟨'[', (Address.ipv6Text groups ++ "]").toList, by simp, by decide⟩
      · cases h
    · cases h
  · split at h
    · cases h
    · next hallowed =>
      obtain ⟨d, rest, hd, hkept⟩ := exists_encode_cons plain c cs
      rw [← Except.ok.inj h]
      refine ⟨d, rest, by rw [← hd]; exact String.toList_ofList, ?_⟩
      rcases hkept with ⟨rfl, hplain⟩ | rfl
      · rw [List.any_cons, Bool.or_eq_true, not_or] at hallowed
        exact isInner_of_not_isForbidden hplain (Bool.eq_false_iff.2 hallowed.1)
      · decide

/-- Where there is no host, nothing is left of the authority when it has been looked for. -/
theorem eq_nil_of_splitHost (h : splitHost false cs = ([], [])) : cs = [] := by
  cases cs with
  | nil => rfl
  | cons c cs =>
    unfold splitHost at h
    split at h <;> simp at h

/-- An authority is read from what is before the last at sign and from the host behind it. Without
a host there is nobody, and nothing behind the at sign. -/
theorem read_general_eq_ok (h : read .general cs more = .ok (a, left)) :
    (a.user, a.password) = userOf ((splitUser cs).1.getD []) ∧
      plainHost (splitHost false (splitUser cs).2).1 = .ok a.host ∧
      (a.host = "" → a = nobody ∧ (splitUser cs).2 = []) := by
  unfold read at h
  -- The splits are kept closed, so that the steps that follow are those of `read`.
  generalize splitUser cs = parts at h ⊢
  obtain ⟨before, afterUser⟩ := parts
  obtain ⟨⟨user, password⟩, huser, h⟩ := bind_eq_ok_iff.1 h
  dsimp only at h ⊢
  generalize hparts : splitHost false afterUser = parts at h ⊢
  obtain ⟨hostText, afterHost⟩ := parts
  obtain ⟨host, hhost, h⟩ := bind_eq_ok_iff.1 h
  obtain ⟨⟨port, rest⟩, hport, h⟩ := bind_eq_ok_iff.1 h
  dsimp only at h hhost hport ⊢
  split at h
  · cases h
  · next hnobody =>
    obtain ⟨hplain, hafter⟩ := plainHost_of_readHost hhost
    cases h
    refine ⟨eq_userOf_of_readUser huser, hplain, fun hempty => ?_⟩
    replace hempty : host = "" := hempty
    rw [hafter hempty] at hparts hport
    obtain ⟨rfl, rfl⟩ : user = "" ∧ password = "" := by simpa [hempty] using hnobody
    cases hostText with
    | nil =>
      cases hport
      exact ⟨by rw [hempty]; rfl, eq_nil_of_splitHost hparts⟩
    | cons c hostText =>
      obtain ⟨d, rest, hd, -⟩ := exists_isInner_of_plainHost hplain
      rw [hempty] at hd
      cases hd

/-- A text is what stands before its last at sign and what stands behind. -/
theorem append_splitUser (cs : List Char) :
    (splitUser cs).1.elim [] (· ++ ['@']) ++ (splitUser cs).2 = cs := by
  have hcut := congrArg List.reverse (Text.append_marked_cut '@' cs.reverse)
  rw [List.reverse_reverse] at hcut
  unfold splitUser
  generalize Text.cut '@' cs.reverse = parts at hcut ⊢
  obtain ⟨after, before⟩ := parts
  cases before with
  | none => rfl
  | some before => simpa [Text.marked] using hcut

/-- Without a user's name or password there is at most the colon between them. -/
theorem eq_colon_of_userOf (h : userOf cs = ("", "")) : ∀ c ∈ cs, c = ':' := by
  have hcut := Text.append_marked_cut ':' cs
  unfold userOf at h
  generalize Text.cut ':' cs = parts at h hcut
  obtain ⟨user, password⟩ := parts
  obtain ⟨huser, hpassword⟩ := Prod.mk.inj h
  rw [← hcut, eq_nil_of_encode huser]
  cases password with
  | none => simp [Text.marked]
  | some password =>
    have hnone : password = [] := eq_nil_of_encode hpassword
    simp [Text.marked, hnone]

/-- Only colons and at signs are read as nobody. -/
theorem eq_colon_or_at_of_read (h : read .general cs more = .ok (nobody, left)) :
    ∀ c ∈ cs, c = ':' ∨ c = '@' := by
  obtain ⟨huser, -, hnobody⟩ := read_general_eq_ok h
  rw [← append_splitUser cs, (hnobody rfl).2, List.append_nil]
  cases hbefore : (splitUser cs).1 with
  | none => simp
  | some before =>
    rw [hbefore] at huser
    intro c hc
    rcases List.mem_append.1 hc with hc | hc
    · exact Or.inl (eq_colon_of_userOf huser.symm c hc)
    · exact Or.inr (List.mem_singleton.1 hc)

/-! ## What is written -/

theorem isInner_of_inUserInfo {c : Char} (h : inUserInfo c = true) : IsInner c := by
  simp only [inUserInfo, inPath, Bool.and_eq_true, Bool.not_eq_true', Bool.or_eq_false_iff,
    beq_eq_false_iff_ne, and_assoc] at h
  obtain ⟨hfragment, hmark, hquery, -, -, hslash, hcolon, -, -, hat, -⟩ := h
  exact ⟨lt_toNat_of_inFragment hfragment, hslash, hquery, hmark, hcolon, hat⟩

/-- A user name or a password that is there starts with a character of its own. -/
theorem exists_isInner_of_userInfo {part : Encoded inUserInfo} (h : part.text ≠ "") :
    ∃ c rest, part.text.toList = c :: rest ∧ IsInner c := by
  obtain ⟨c, rest, hc⟩ := List.exists_cons_of_ne_nil fun hnil => h (String.toList_eq_nil_iff.1 hnil)
  exact ⟨c, rest, hc, isInner_of_inUserInfo (part.kept c (hc ▸ List.mem_cons_self))⟩

/-- What does not end an authority, at the colon between a user and a password or elsewhere. -/
theorem ne_of_isInner {c : Char} (h : c = ':' ∨ IsInner c) :
    0x20 < c.toNat ∧ c ≠ '/' ∧ c ≠ '?' ∧ c ≠ '#' := by
  rcases h with rfl | ⟨hblank, hslash, hquery, hmark, -, -⟩
  · decide
  · exact ⟨hblank, hslash, hquery, hmark⟩

/-- Who is somebody is written as such: at most a colon is written before a character of theirs. -/
theorem exists_isInner_of_read (h : read .general cs more = .ok (a, left)) (ha : a ≠ nobody) :
    ∃ front, front <+: a.text.toList ∧ (∀ d ∈ front, d = ':' ∨ IsInner d) ∧
      ∃ d ∈ front, IsInner d := by
  obtain ⟨huserOf, hhost, hnobody⟩ := read_general_eq_ok h
  have hne : a.host ≠ "" := fun hempty => ha (hnobody hempty).1
  obtain ⟨user, password, host, port⟩ := a
  obtain ⟨rfl, rfl⟩ := Prod.mk.inj huserOf
  generalize Encoded.userInfo _ = user at *
  generalize Encoded.userInfo _ = password at *
  -- The first part that is there says who it is.
  by_cases huser : user.text = ""
  · by_cases hpassword : password.text = ""
    · generalize (splitHost false (splitUser cs).2).1 = hostText at hhost
      cases hostText with
      | nil => exact absurd (Except.ok.inj hhost).symm hne
      | cons c hostText =>
        obtain ⟨d, rest, hd, hinner⟩ := exists_isInner_of_plainHost hhost
        replace hd : host.toList = d :: rest := hd
        refine ⟨[d], ?_, by simp [hinner], d, by simp, hinner⟩
        simp [text, huser, hpassword, hd]
    · obtain ⟨d, rest, hd, hinner⟩ := exists_isInner_of_userInfo hpassword
      refine ⟨[':', d], ?_, by simp [hinner], d, by simp, hinner⟩
      simp [text, huser, hpassword, hd]
  · obtain ⟨d, rest, hd, hinner⟩ := exists_isInner_of_userInfo huser
    refine ⟨[d], ?_, by simp [hinner], d, by simp, hinner⟩
    simp [text, huser, hd]

end Depot.Url.Authority
