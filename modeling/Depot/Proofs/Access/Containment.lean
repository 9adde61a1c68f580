import Mathlib.Tactic.TFAE
import Depot.Proofs.Access.Callers
import Depot.Proofs.Layout.Ways
import Depot.Text.Utf8

/-!
# Namespaces below namespaces

Whether a namespace lies below another one is asked in several places and in several ways: of the
texts, octet by octet, of the segments between the dots, of the references that the segments lead
to, and of a pattern of callers. All of them give the same answer
(`Namespace.containments_agree`), because a segment has no dot in it, no character of it has to be
escaped, and each of them is one octet.

A namespace is the text of its segments (`Namespace.exists_read_eq_ok_iff`), so that the relation
is an order: it is that of lists, of which one begins with another.
-/

namespace Depot

/-- A letter, a digit, an underscore or a hyphen. -/
def IsSegmentChar (c : Char) : Prop :=
  'A' ≤ c ∧ c ≤ 'Z' ∨ 'a' ≤ c ∧ c ≤ 'z' ∨ '0' ≤ c ∧ c ≤ '9' ∨ c = '_' ∨ c = '-'

instance (c : Char) : Decidable (IsSegmentChar c) :=
  inferInstanceAs (Decidable (_ ∨ _))

/-- One or more segments, none of them empty, of letters, digits, underscores and hyphens. -/
def AreSegments (segments : List String) : Prop :=
  segments ≠ [] ∧ ∀ s ∈ segments, s ≠ "" ∧ ∀ c ∈ s.toList, IsSegmentChar c

theorem isNamespaceChar_iff {c : Char} : isNamespaceChar c = true ↔ IsSegmentChar c := by
  simp only [isNamespaceChar, Text.isAsciiAlphanumeric, Text.isAsciiLetter, Text.isAsciiDigit,
    IsSegmentChar, Bool.or_eq_true, Bool.and_eq_true, decide_eq_true_eq, beq_iff_eq]
  tauto

/-- A text is that of a namespace if its pieces between dots are segments. -/
theorem isNamespace_iff {text : String} :
    IsNamespace text ↔ AreSegments (Text.pieces '.' text) := by
  rw [AreSegments, and_iff_right (Text.pieces_ne_nil '.' text)]
  simp [IsNamespace, Text.pieces, isNamespaceChar_iff]

namespace Text.Utf8

variable {c d : Char} {cs ds : List Char}

/-! ## Octets of ASCII -/

theorem encode_cons_of_lt (h : c.toNat < 128) : encode (c :: cs) = c.val.toUInt8 :: encode cs := by
  have hsize : c.utf8Size = 1 :=
    Char.utf8Size_eq_one_iff.2 (UInt32.le_iff_toNat_le.2 (Nat.le_of_lt_succ h))
  simp [encode, String.utf8EncodeChar_eq_singleton hsize]

theorem toUInt8_val_inj (hc : c.toNat < 128) (hd : d.toNat < 128) :
    c.val.toUInt8 = d.val.toUInt8 ↔ c = d := by
  constructor
  · intro h
    have hoctets := congrArg UInt8.toNat h
    simp only [UInt32.toNat_toUInt8] at hoctets
    unfold Char.toNat at hc hd
    refine Char.toNat_inj.1 ?_
    unfold Char.toNat
    omega
  · intro h
    rw [h]

/-- Within ASCII a text begins with another one if its octets do. -/
theorem encode_prefix_encode_iff (hcs : ∀ c ∈ cs, c.toNat < 128) (hds : ∀ c ∈ ds, c.toNat < 128) :
    encode cs <+: encode ds ↔ cs <+: ds := by
  induction cs generalizing ds with
  | nil => simp [encode]
  | cons c cs ih =>
    rw [List.forall_mem_cons] at hcs
    cases ds with
    | nil =>
      rw [encode_cons_of_lt hcs.1]
      simp [encode]
    | cons d ds =>
      rw [List.forall_mem_cons] at hds
      rw [encode_cons_of_lt hcs.1, encode_cons_of_lt hds.1, List.cons_prefix_cons,
        List.cons_prefix_cons, toUInt8_val_inj hcs.1 hds.1, ih hcs.2 hds.2]

end Text.Utf8

namespace Namespace

variable {a b c : Namespace} {text : String}

/-! ## How a namespace is written -/

theorem areSegments_segments (n : Namespace) : AreSegments n.segments :=
  isNamespace_iff.1 n.isNamespace

/-- A text is read as a namespace if it is made of segments with single dots between them. -/
theorem exists_read_eq_ok_iff :
    (∃ n, read text = .ok n) ↔
      ∃ segments, AreSegments segments ∧ text = Text.glue '.' segments := by
  constructor
  · rintro ⟨n, hn⟩
    refine ⟨n.segments, n.areSegments_segments, ?_⟩
    rw [segments, Text.glue_pieces, read_eq_ok_iff.1 hn]
  · rintro ⟨segments, hsegments, rfl⟩
    -- No segment has a dot in it, so that the text falls into the same segments again.
    have hdots : ∀ s ∈ segments, '.' ∉ s.toList := by
      intro s hs hdot
      exact absurd ((hsegments.2 s hs).2 '.' hdot) (by decide)
    have hpieces := Text.pieces_glue hsegments.1 hdots
    exact ⟨⟨_, isNamespace_iff.2 (hpieces.symm ▸ hsegments)⟩, read_eq_ok_iff.2 rfl⟩

/-! ## Looking at octets -/

/-- The octets of the text. -/
def octets (n : Namespace) : List UInt8 :=
  Text.Utf8.encode n.text.toList

theorem toNat_lt_of_mem_text {n : Namespace} {c : Char} (h : c ∈ n.text.toList) :
    c.toNat < 128 := by
  by_cases hdot : c = '.'
  · rw [hdot]
    decide
  · rw [← Text.join_split '.' n.text.toList, Text.mem_join_iff hdot] at h
    obtain ⟨p, hp, hc⟩ := h
    exact toNat_lt_of_isNameChar (isNameChar_of_isNamespaceChar ((n.isNamespace p hp).2 c hc))

/-- A list begins with another one and goes on with an element. -/
theorem prefix_and_getElem?_iff {α : Type} {l m : List α} {x : α} :
    l <+: m ∧ m[l.length]? = some x ↔ l ++ [x] <+: m := by
  constructor
  · rintro ⟨⟨rest, rfl⟩, hx⟩
    rw [List.getElem?_append_right (Nat.le_refl _), Nat.sub_self] at hx
    obtain ⟨rest, rfl⟩ := List.head?_eq_some_iff.1 (List.head?_eq_getElem? ▸ hx)
    exact ⟨rest, by simp⟩
  · rintro ⟨rest, rfl⟩
    simp

/-- Below a namespace are those whose octets go on from its own with a dot. -/
theorem isWithin_iff_octets :
    a.isWithin b = true ↔
      a = b ∨ b.octets <+: a.octets ∧ a.octets[b.octets.length]? = some '.'.toUInt8 := by
  have hdot : b.octets ++ ['.'.toUInt8] = Text.Utf8.encode (b.text.toList ++ ['.']) := by
    rw [octets, Text.Utf8.encode, Text.Utf8.encode, List.flatMap_append]
    rfl
  have hascii : ∀ c ∈ b.text.toList ++ ['.'], c.toNat < 128 := by
    simp only [List.forall_mem_append, List.forall_mem_singleton]
    exact ⟨fun c => toNat_lt_of_mem_text, by decide⟩
  rw [prefix_and_getElem?_iff, hdot, octets,
    Text.Utf8.encode_prefix_encode_iff hascii fun c => toNat_lt_of_mem_text, isWithin,
    Bool.or_eq_true, beq_iff_eq, List.isPrefixOf_iff_prefix]

/-! ## Looking elsewhere -/

theorem startsWith_ofNames_iff :
    (Uri.ofNames a.segments).startsWith (Uri.ofNames b.segments) = true ↔
      b.segments <+: a.segments :=
  Uri.startsWith_ofNames (fun _ => isPart_of_mem_segments) fun _ => isPart_of_mem_segments

/-- The pattern of all that is below a namespace is written with `.*` behind it. -/
theorem exists_pattern_iff :
    (∃ p, CallerPattern.read (b.text ++ ".*") = .ok p ∧ p.admits a = true) ↔
      a.isWithin b = true := by
  have hread : CallerPattern.read (b.text ++ ".*") = .ok (.within b) :=
    CallerPattern.read_text (.within b)
  simp [hread, CallerPattern.admits]

/-! ## The order -/

theorem isWithin_refl (a : Namespace) : a.isWithin a = true :=
  isWithin_iff.2 List.prefix_rfl

theorem isWithin_trans (h : a.isWithin b = true) (h' : b.isWithin c = true) :
    a.isWithin c = true :=
  isWithin_iff.2 ((isWithin_iff.1 h').trans (isWithin_iff.1 h))

theorem isWithin_antisymm (h : a.isWithin b = true) (h' : b.isWithin a = true) : a = b := by
  have hsegments : b.segments = a.segments :=
    (isWithin_iff.1 h).eq_of_length_le (isWithin_iff.1 h').length_le
  exact text_inj.1 (Text.pieces_injective hsegments).symm

/-- A namespace is one or more segments with single dots between them. Whether it is another one or
lies below it can be told by the texts, by their octets, by the segments, by the references that
these lead to, and by the pattern of callers that is written with a dot and a star behind the other
one: it is all the same, and it is an order. -/
theorem containments_agree :
    (∀ text, (∃ n, Namespace.read text = .ok n) ↔
      ∃ segments, AreSegments segments ∧ text = Text.glue '.' segments) ∧
    (∀ a b : Namespace, List.TFAE [a.isWithin b = true,
      a = b ∨ b.octets <+: a.octets ∧ a.octets[b.octets.length]? = some '.'.toUInt8,
      b.segments <+: a.segments,
      (Uri.ofNames a.segments).startsWith (Uri.ofNames b.segments) = true,
      ∃ p, CallerPattern.read (b.text ++ ".*") = .ok p ∧ p.admits a = true]) ∧
    (∀ a : Namespace, a.isWithin a = true) ∧
    (∀ a b c : Namespace, a.isWithin b = true → b.isWithin c = true → a.isWithin c = true) ∧
    ∀ a b : Namespace, a.isWithin b = true → b.isWithin a = true → a = b := by
  refine ⟨fun text => exists_read_eq_ok_iff, fun a b => ?_, isWithin_refl,
    fun _ _ _ => isWithin_trans, fun _ _ => isWithin_antisymm⟩
  tfae_have 1 ↔ 2 := isWithin_iff_octets
  tfae_have 1 ↔ 3 := isWithin_iff
  tfae_have 4 ↔ 3 := startsWith_ofNames_iff
  tfae_have 5 ↔ 1 := exists_pattern_iff
  tfae_finish

/-- A subteam is admitted with the team, and a teammate is not below it although its text goes on
from that of the team. -/
theorem containments_agree_of_teammate :
    let team : Namespace := ⟨"company.team", by decide⟩
    let sub : Namespace := ⟨"company.team.sub", by decide⟩
    let mate : Namespace := ⟨"company.teammate", by decide⟩
    (∃ p, CallerPattern.read "company.team.*" = .ok p ∧ p.admits sub = true) ∧
      (Uri.ofNames mate.segments).startsWith (Uri.ofNames team.segments) = false ∧
      mate.isWithin team = false ∧ ¬team.isWithin sub = true := by
  intro team sub mate
  obtain ⟨-, hagree, -, -, hantisymm⟩ := containments_agree
  have hsub : sub.isWithin team = true := by decide
  have hmate : mate.isWithin team = false := by decide
  have huri : mate.isWithin team = true ↔
      (Uri.ofNames mate.segments).startsWith (Uri.ofNames team.segments) = true :=
    (hagree mate team).out 0 3
  refine ⟨((hagree sub team).out 0 4).1 hsub, ?_, hmate, fun h => ?_⟩
  · rwa [← Bool.not_eq_true, ← huri, Bool.not_eq_true]
  · exact absurd (hantisymm sub team hsub h) (by decide)

end Namespace

end Depot
