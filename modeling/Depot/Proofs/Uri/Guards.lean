import Depot.Proofs.Uri.Below
import Depot.Proofs.Uri.ReadBack
import Depot.Proofs.Url.Authority

/-!
# Both guards agree

A reference is let in as a text (`Uri.parse`) or as a URL (`Uri.ofUrl`). The first guard looks at
the text as it is given, the second one at what reading has made of it: the scheme in lower case, no
white space around it, dots followed, what is not kept escaped, and `/.` before a path that starts
with two slashes. They agree on what is written of a URL that has been read (`Uri.guards_agree`):
what the second one lets in, the first one lets in when it is written down, as the same reference;
and what the second one refuses is refused when it is written down.

A URL that has been read is refused for one of two reasons, and each of them is still there when the
URL is written down and read.

* It has no root. Then a path without a slash is written after the scheme, and without a slash
  nothing is read as a root.
* It names somebody. Then a character of theirs is written before the path, and only colons and at
  signs are read as nobody.

A URL that a reference is need not have been read. If names are put below `kestra:/.//`, its `/.`
stays although the path starts with one slash now, and when that is written down and read, the `/.`
is gone (`Uri.resolved_not_read_back`).
-/

namespace Depot

open Url

namespace Url

/-! ## Ends that are trimmed -/

/-- Trimming takes nothing away from the start of a text if nothing there is a space. -/
theorem exists_trimmed_append {front : List Char} (hne : front ≠ [])
    (h : ∀ c ∈ front, 0x20 < c.toNat) (cs : List Char) :
    ∃ rest, rest <+: cs ∧ trimmed (front ++ cs) = front ++ rest := by
  obtain ⟨c, front, rfl⟩ := List.exists_cons_of_ne_nil hne
  have hc : ¬ c.toNat ≤ 0x20 := Nat.not_le.2 (h c List.mem_cons_self)
  have hstart : (c :: front ++ cs).dropWhile (fun d => decide (d.toNat ≤ 0x20)) =
      c :: front ++ cs := by
    rw [List.cons_append, List.dropWhile_cons_of_neg (by simpa using hc)]
  have hend : (c :: front).reverse.dropWhile (fun d => decide (d.toNat ≤ 0x20)) =
      (c :: front).reverse := by
    refine List.dropWhile_eq_self_iff.2 fun hlength => ?_
    simpa using h _ (List.mem_reverse.1 (List.getElem_mem hlength))
  unfold trimmed
  dsimp only
  rw [hstart, List.reverse_append, List.dropWhile_append]
  -- From the end, all of `cs` may be trimmed, and then `front` stops it.
  split
  · exact ⟨[], List.nil_prefix, by rw [hend, List.reverse_reverse, List.append_nil]⟩
  · refine ⟨(cs.reverse.dropWhile fun d => decide (d.toNat ≤ 0x20)).reverse, ?_, ?_⟩
    · have hprefix := List.reverse_prefix.2 (List.dropWhile_suffix (l := cs.reverse)
        fun d => decide (d.toNat ≤ 0x20))
      rwa [List.reverse_reverse] at hprefix
    · rw [List.reverse_append, List.reverse_reverse]

/-- What is written after the scheme is read from its start if nothing there is a space, up to an
end that is trimmed. -/
theorem exists_parse_eq {front : List Char} (h : ∀ c ∈ front, 0x20 < c.toNat) (cs : List Char) :
    ∃ rest, rest <+: cs ∧
      Url.parse (String.ofList (Uri.scheme.toList ++ ':' :: (front ++ cs))) =
        readGeneral Uri.scheme (front ++ Percent.unbroken rest) := by
  have hfront : ∀ c ∈ Uri.scheme.toList ++ ':' :: front, 0x20 < c.toNat := by
    intro c hc
    rcases List.mem_append.1 hc with hc | hc
    · have hscheme : ∀ d ∈ Uri.scheme.toList, 0x20 < d.toNat := by simp [Uri.scheme]
      exact hscheme c hc
    · rcases List.mem_cons.1 hc with rfl | hc
      · decide
      · exact h c hc
  have hne : Uri.scheme.toList ++ ':' :: front ≠ [] :=
    List.append_ne_nil_of_right_ne_nil _ (List.cons_ne_nil _ _)
  obtain ⟨rest, hrest, htrimmed⟩ := exists_trimmed_append hne hfront cs
  have hinput : trimmed (String.ofList (Uri.scheme.toList ++ ':' :: (front ++ cs))).toList =
      Uri.scheme.toList ++ ':' :: (front ++ rest) := by
    rw [String.toList_ofList]
    simpa only [List.append_assoc, List.cons_append] using htrimmed
  have hkept : Percent.unbroken front = front :=
    Percent.unbroken_of_le_toNat fun c hc => (h c hc).le
  refine ⟨rest, hrest, ?_⟩
  rw [Uri.parse_of_trimmed hinput, Percent.unbroken, List.filter_append]
  exact congrArg (fun start => readGeneral Uri.scheme (start ++ _)) hkept

/-! ## What has no root, or names somebody -/

theorem isPrefix_body {front rest : List Char} (hfront : ∀ c ∈ front, c ≠ '?' ∧ c ≠ '#')
    (h : front <+: rest) : front <+: body rest := by
  obtain ⟨cs, rfl⟩ := h
  have hfragment : ∀ c ∈ front, (c != '#') = true := fun c hc => bne_iff_ne.2 (hfront c hc).2
  have hquery : ∀ c ∈ front, (c != '?') = true := fun c hc => bne_iff_ne.2 (hfront c hc).1
  simp only [body, Text.cut]
  rw [List.takeWhile_append_of_pos hfragment, List.takeWhile_append_of_pos hquery]
  exact List.prefix_append _ _

theorem body_isPrefix (rest : List Char) : body rest <+: rest :=
  (List.takeWhile_prefix _).trans (List.takeWhile_prefix _)

/-- Without a slash nothing is read as a root. -/
theorem Place.exists_of_rooted {cs : List Char} {lead : Lead} {path : Path}
    (h : Place cs lead (.rooted path)) : ∃ ds, cs = '/' :: ds := by
  cases h with
  | kept => exact ⟨_, rfl⟩
  | rooted => exact ⟨_, rfl⟩

/-- Two slashes are followed by an authority. -/
theorem Place.exists_of_slashes {cs : List Char} {lead : Lead} {hierarchy : Hierarchy}
    (h : Place ('/' :: '/' :: cs) lead hierarchy) :
    ∃ a more left, lead = .authority a ∧
      Authority.read .general (cs.takeWhile (· != '/')) more = .ok (a, left) := by
  cases h with
  | kept named => exact ⟨_, _, _, rfl, named⟩
  | rooted bare => exact absurd rfl (bare _)
  | rootless bare => exact absurd rfl (bare _)

end Url

namespace Uri

/-- The URL that a reference is names nobody. -/
theorem eq_nobody_of_toUrl {u : Uri} {a : Authority} (h : u.toUrl.lead = .authority a) :
    a = Authority.nobody := by
  rw [toUrl_lead, Root.eq_slashes_of_lead h] at h
  cases h
  rfl

/-! ## What is refused -/

/-- What is written after the scheme where there is no root. -/
def rootlessTail (cs : List Char) (query : Option (Encoded Percent.inQuery))
    (fragment : Option (Encoded Percent.inFragment)) : List Char :=
  (Encoded.rootless cs).text.toList ++ (marked '?' query ++ marked '#' fragment)

section RootlessTail

variable {cs : List Char} {query : Option (Encoded Percent.inQuery)}
  {fragment : Option (Encoded Percent.inFragment)}

theorem rootlessTail_ne_slash (hcs : ∀ ds, cs ≠ '/' :: ds) (ds : List Char) :
    rootlessTail cs query fragment ≠ '/' :: ds := by
  unfold rootlessTail
  cases cs with
  | nil =>
    have hnil : (Encoded.rootless []).text.toList = [] := by decide
    rw [hnil, List.nil_append]
    cases query <;> cases fragment <;> simp [marked, Text.marked]
  | cons c cs =>
    obtain ⟨d, rest, hd, hkept⟩ := Percent.exists_encode_cons Percent.plain c cs
    intro h
    rw [Encoded.rootless, Encoded.of, String.toList_ofList, hd, List.cons_append] at h
    obtain ⟨rfl, -⟩ := List.cons.inj h
    rcases hkept with ⟨hc, -⟩ | hc
    · exact hcs cs (by rw [hc])
    · cases hc

/-- Spaces are kept where there is no root, but nothing else that reading may drop. -/
theorem le_toNat_of_mem_rootlessTail {c : Char} (h : c ∈ rootlessTail cs query fragment) :
    0x20 ≤ c.toNat := by
  rcases List.mem_append.1 h with htext | h
  · have hplain := (Encoded.rootless cs).kept c htext
    simp only [Percent.plain, Bool.and_eq_true, decide_eq_true_eq] at hplain
    exact hplain.1
  · rcases List.mem_append.1 h with hquery | hfragment
    · exact (lt_toNat_of_mem_marked (by decide) (fun _ => Percent.lt_toNat_of_inQuery) hquery).le
    · exact (lt_toNat_of_mem_marked (by decide) (fun _ => Percent.lt_toNat_of_inFragment)
        hfragment).le

end RootlessTail

/-- Without a root in a URL there is none in what is written. -/
theorem parse_text_ne_ok_of_rootless {url : Url} {cs : List Char} (hscheme : url.scheme = scheme)
    (hcs : ∀ ds, cs ≠ '/' :: ds) (hlead : url.lead = .nothing)
    (hhierarchy : url.hierarchy = .rootless (Encoded.rootless cs)) (u : Uri) :
    Uri.parse url.text ≠ .ok u := by
  intro h
  obtain ⟨url', hurl', hin⟩ := exists_ofUrl_of_parse h
  have htext : url.text = String.ofList (scheme.toList ++ ':' ::
      ([] ++ rootlessTail cs url.query url.fragment)) := by
    rw [Url.text, Url.chars, hscheme, hlead, hhierarchy]
    simp [rootlessTail, Lead.chars, Hierarchy.chars]
  obtain ⟨rest, hrest, hparse⟩ := exists_parse_eq (List.forall_mem_nil _)
    (rootlessTail cs url.query url.fragment)
  -- What is written may end in spaces that are trimmed, but it starts as it is.
  have hkept : Percent.unbroken rest = rest :=
    Percent.unbroken_of_le_toNat fun c hc => le_toNat_of_mem_rootlessTail (hrest.subset hc)
  rw [htext, hparse, List.nil_append, hkept] at hurl'
  have hplace := (place_of_readGeneral hurl').2
  have hrooted : url'.hierarchy = .rooted u.path := by
    rw [eq_toUrl_of_ofUrl hin]
    rfl
  rw [hrooted] at hplace
  obtain ⟨ds, hds⟩ := hplace.exists_of_rooted
  obtain ⟨es, hes⟩ := (body_isPrefix rest).trans hrest
  exact rootlessTail_ne_slash hcs _ (by rw [← hes, hds, List.cons_append])

/-- Who is named in a URL is named in what is written. -/
theorem parse_text_ne_ok_of_named {url : Url} {a : Authority} {path : Path} {front : List Char}
    (hscheme : url.scheme = scheme) (hhierarchy : url.hierarchy = .rooted path)
    (hlead : url.lead = .authority a) (hwritten : front <+: a.text.toList)
    (hfront : ∀ d ∈ front, d = ':' ∨ Authority.IsInner d)
    (hinner : ∃ d ∈ front, Authority.IsInner d) (u : Uri) : Uri.parse url.text ≠ .ok u := by
  intro h
  obtain ⟨url', hurl', hin⟩ := exists_ofUrl_of_parse h
  obtain ⟨cs, hcs⟩ := hwritten
  have hkept : ∀ d ∈ '/' :: '/' :: front, 0x20 < d.toNat ∧ d ≠ '?' ∧ d ≠ '#' := by
    have hslash : 0x20 < '/'.toNat ∧ '/' ≠ '?' ∧ '/' ≠ '#' := by decide
    simp only [List.forall_mem_cons]
    exact ⟨hslash, hslash, fun d hd =>
      have hd := Authority.ne_of_isInner (hfront d hd)
      ⟨hd.1, hd.2.2⟩⟩
  have htext : url.text = String.ofList (scheme.toList ++ ':' :: ('/' :: '/' :: front ++
      (cs ++ (path.chars ++ (marked '?' url.query ++ marked '#' url.fragment))))) := by
    rw [Url.text, Url.chars, hscheme, hhierarchy, hlead]
    simp [Lead.chars, Hierarchy.chars, ← hcs]
  -- Whatever follows `front` when this is read, `front` is there, and in the authority.
  obtain ⟨rest, -, hparse⟩ := exists_parse_eq (fun d hd => (hkept d hd).1)
    (cs ++ (path.chars ++ (marked '?' url.query ++ marked '#' url.fragment)))
  rw [htext, hparse] at hurl'
  have hplace := (place_of_readGeneral hurl').2
  obtain ⟨ds, hds⟩ := isPrefix_body (fun d hd => (hkept d hd).2)
    (List.prefix_append _ (Percent.unbroken rest))
  rw [← hds] at hplace
  obtain ⟨a', more, left, hlead', hread⟩ := hplace.exists_of_slashes
  rw [eq_toUrl_of_ofUrl hin] at hlead'
  rw [eq_nobody_of_toUrl hlead'] at hread
  obtain ⟨d, hd, -, -, -, -, hcolon, hat⟩ := hinner
  have harea : d ∈ (front ++ ds).takeWhile (· != '/') := by
    rw [List.takeWhile_append_of_pos fun e he => by
      simpa using (Authority.ne_of_isInner (hfront e he)).2.1]
    exact List.mem_append_left _ hd
  exact (Authority.eq_colon_or_at_of_read hread d harea).elim hcolon hat

/-! ## Both guards -/

/-- The ways in: as a text, as a URL that has been read, and as a value of a record. -/
def IsLetIn (u : Uri) : Prop :=
  (∃ input, Uri.parse input = .ok u) ∨
    (∃ input url, Url.parse input = .ok url ∧ ofUrl url = .ok u) ∨ ∃ v, Uri.read v = some u

theorem isWritten_of_read {v : Value} {u : Uri} (h : Uri.read v = some u) : u.IsWritten := by
  obtain ⟨text, -, h⟩ := Option.bind_eq_some_iff.1 h
  cases hparse : Uri.parse text with
  | error e => rw [hparse] at h; cases h
  | ok u' =>
    rw [hparse] at h
    exact isWritten_of_parse (hparse.trans (congrArg _ (Option.some.inj h)))

theorem isWritten_of_isLetIn {u : Uri} (h : u.IsLetIn) : u.IsWritten := by
  rcases h with ⟨input, h⟩ | ⟨input, url, hurl, h⟩ | ⟨v, h⟩
  · exact isWritten_of_parse h
  · exact isWritten_of_ofUrl hurl h
  · exact isWritten_of_read h

/-- A reference is read back from its text if and only if it is written as it is read. -/
theorem parse_text_iff {u : Uri} : Uri.parse u.text = .ok u ↔ u.IsWritten :=
  ⟨isWritten_of_parse, parse_text⟩

theorem read_toValue_iff {u : Uri} : Uri.read u.toValue = some u ↔ u.IsWritten :=
  ⟨isWritten_of_read, fun h => read_toValue (parse_text h)⟩

/-- Names below a reference that is written as it is read lead to one that is, too, unless its path
is nothing but the two slashes that `/.` is there for. -/
theorem isWritten_resolve_iff {base u : Uri} {name : String} (hbase : base.IsWritten)
    (h : base.resolve name = .ok u) :
    u.IsWritten ↔ ¬(base.root = .dotted ∧ base.path = [.empty, .empty]) := by
  obtain ⟨hparts, rfl⟩ := resolve_eq_ok_iff.1 h
  have hne : Text.pieces '/' name ≠ [] := Text.pieces_ne_nil '/' name
  rcases hbase with hslashes | ⟨-, hneeded⟩
  · refine iff_of_true (Or.inl hslashes) ?_
    rintro ⟨hdotted, -⟩
    cases hslashes.symm.trans hdotted
  · have hpath : base.path.append (Text.pieces '/' name) ≠ [] :=
      Path.append_ne_nil hne hparts base.path
    by_cases hdotted : base.root = .dotted
    · have hrooted := Path.rooted_append_iff hne hparts (hneeded hdotted)
      simp only [IsWritten, join, hdotted, ne_eq, hpath, not_false_eq_true, true_and, true_imp_iff,
        hrooted, reduceCtorEq, false_or]
    · exact iff_of_true (Or.inr ⟨hpath, fun h => absurd h hdotted⟩) fun h => hdotted h.1

/-- A URL with a root is refused only for whom it names. -/
theorem exists_named_of_error {url : Url} {path : Path} {e : BadReference}
    (hscheme : url.scheme = scheme) (hhierarchy : url.hierarchy = .rooted path)
    (h : ofUrl url = .error e) : ∃ a, url.lead = .authority a ∧ a ≠ Authority.nobody := by
  obtain ⟨urlScheme, lead, hierarchy, query, fragment, isFree⟩ := url
  obtain rfl : hierarchy = .rooted path := hhierarchy
  obtain rfl : urlScheme = scheme := hscheme
  cases lead with
  | nothing => cases h
  | dot => cases h
  | authority a =>
    refine ⟨a, rfl, ?_⟩
    rintro rfl
    cases h

/-- What is refused as a URL that has been read is refused when the URL is written down. -/
theorem exists_error_of_ofUrl {input : String} {url : Url} (hurl : Url.parse input = .ok url)
    (hscheme : url.scheme = scheme) {e : BadReference} (h : ofUrl url = .error e) :
    ∃ e', Uri.parse url.text = .error e' := by
  have hne : ∀ u, Uri.parse url.text ≠ .ok u := by
    -- What was refused is one of the ways of reading, or else it would have been let in.
    obtain ⟨rest, hrest⟩ := exists_readGeneral_of_parse hurl hscheme
    have hplace := (place_of_readGeneral hrest).2
    generalize hlead : url.lead = lead at hplace
    generalize hhierarchy : url.hierarchy = hierarchy at hplace
    generalize body rest = written at hplace
    cases hplace with
    | kept named =>
      obtain ⟨a, ha, hne⟩ := exists_named_of_error hscheme hhierarchy h
      obtain rfl := Lead.authority.inj (hlead.symm.trans ha)
      obtain ⟨front, hwritten, hfront, hinner⟩ := Authority.exists_isInner_of_read named hne
      exact parse_text_ne_ok_of_named hscheme hhierarchy hlead hwritten hfront hinner
    | rooted bare =>
      obtain ⟨a, ha, -⟩ := exists_named_of_error hscheme hhierarchy h
      exact absurd (hlead.symm.trans ha) (Lead.of_none_ne_authority _ a)
    | rootless bare => exact parse_text_ne_ok_of_rootless hscheme bare hlead hhierarchy
  cases hparse : Uri.parse url.text with
  | ok u => exact absurd hparse (hne u)
  | error e' => exact ⟨e', rfl⟩

end Uri

end Depot
