import Depot.Proofs.Cache.Entry
import Depot.Proofs.Client.Request
import Depot.Proofs.Layout.Ways

/-!
# Cache requests when calls fail

A request for an entry makes up to three calls, for its attributes, its content and its removal, and
the front of the backend may let each of them fail. A failure that says that nothing is there is
taken for just that: without attributes an entry does not expire, and without content there is none.
Any other failure of the first two calls is the answer. The removal of an expired entry is never
waited for: whatever comes of it, the answer is that there is nothing
(`Client.readCache_under_faults`).
-/

namespace Depot.Client

variable {c : Client} {cacheId : String} {objectId : Option String} {u : Uri} {w : World}
  {ttl : Option Nat} {e : Failure}

/-! ## What is found out -/

/-- An entry is found to have expired: its attributes are reported, and the clock shows more than
the instant that they name and the time that the entry is given. -/
def FindsExpired (c : Client) (w : World) (uri : Uri) (ttl : Option Nat) : Prop :=
  w.faults.failing .attributes = none ∧
    ∃ o modified d, w.store.find? c.area uri = some o ∧
      Instant.ofMillis? o.modified = some modified ∧ ttl = some d ∧
      modified.nanos + d < (c.time w).nanos

/-- Whether an entry has expired is not asked, or it can be told: the attributes are reported, or
nothing is there to report of. -/
def CanTell (w : World) (ttl : Option Nat) : Prop :=
  ttl = none ∨ ∀ e, w.faults.failing .attributes = some e → e.isAbsent = true

/-- What is read where a file is, or nothing: its content, unless the call fails. -/
def contentAt (c : Client) (w : World) (uri : Uri) : Except Failure (Option ByteArray) :=
  match w.faults.failing .get with
  | some e => if e.isAbsent then .ok none else .error e
  | none => .ok ((w.store.find? c.area uri).map Store.Object.content)

theorem findsExpired_iff :
    c.FindsExpired w u ttl ↔
      w.faults.failing .attributes = none ∧ c.isStale w u ttl = true := by
  unfold FindsExpired isStale
  refine and_congr_right fun _ => ?_
  constructor
  · rintro ⟨o, modified, d, ho, hmodified, rfl, hlater⟩
    simp only [Option.any_some, ho, hmodified]
    exact isExpired_iff.2 hlater
  · intro hstale
    obtain ⟨d, hd, hstale⟩ := (Option.any_eq_true _ _).1 hstale
    obtain ⟨o, ho, hstale⟩ := (Option.any_eq_true _ _).1 hstale
    obtain ⟨modified, hmodified, hexpired⟩ := (Option.any_eq_true _ _).1 hstale
    exact ⟨o, modified, d, ho, hmodified, hd, isExpired_iff.1 hexpired⟩

theorem contentAt_eq_error_iff :
    c.contentAt w u = .error e ↔ w.faults.failing .get = some e ∧ e.isAbsent = false := by
  unfold contentAt
  cases hget : w.faults.failing .get with
  | none => simp
  | some d =>
    dsimp only
    by_cases habsent : d.isAbsent = true
    · rw [if_pos habsent]
      constructor
      · rintro ⟨⟩
      · rintro ⟨hd, he⟩
        rw [Option.some.inj hd, he] at habsent
        cases habsent
    · rw [if_neg habsent, Except.error.injEq, Option.some.injEq]
      constructor
      · rintro rfl
        exact ⟨rfl, Bool.eq_false_iff.2 habsent⟩
      · exact And.left

/-! ## The first call -/

theorem isCacheExpired_of_failing (hfails : w.faults.failing .attributes = some e) (d : Nat) :
    c.isCacheExpired u d w = (if e.isAbsent then .ok false else .error e, w) := by
  have hattributes : (Backend.attributes c.area u).attempt w = (.ok (.error e), w) := by
    rw [Action.attempt, Backend.attributes, Backend.front_of_some hfails]
  unfold isCacheExpired cacheModified
  rw [Action.bind_apply, Action.bind_apply, hattributes]
  dsimp only
  cases e.isAbsent <;> rfl

/-- If it can be told whether an entry has expired, it is. -/
theorem askStale_of_canTell (h : CanTell w ttl) :
    ∃ served stale, c.askStale u ttl w = (.ok stale, { w with served }) ∧
      (stale = true ↔ c.FindsExpired w u ttl) := by
  rw [findsExpired_iff]
  cases ttl with
  | none => exact ⟨w.served, false, rfl, by simp [isStale]⟩
  | some d =>
    cases hfails : w.faults.failing .attributes with
    | none =>
      exact ⟨w.served + 1, _, isCacheExpired_apply hfails u d, by simp⟩
    | some e =>
      have habsent : e.isAbsent = true := by
        rcases h with h | h
        · cases h
        · exact h e hfails
      refine ⟨w.served, false, ?_, by simp⟩
      rw [askStale, isCacheExpired_of_failing hfails, if_pos habsent]

/-! ## The second call -/

theorem fetch_true_apply : c.fetch u true w = (.ok none, (Backend.remove c.area u w).2) := by
  unfold fetch
  rw [if_pos rfl, Action.bind_apply, Action.attempt]
  rfl

theorem fetch_false_apply (hplace : ∀ o, w.store.find? c.area u = some o → o.kind = .file) :
    ∃ served, c.fetch u false w = (c.contentAt w u, { w with served }) := by
  unfold fetch contentAt
  rw [if_neg Bool.false_ne_true, Action.bind_apply, Action.attempt]
  cases hfails : w.faults.failing .get with
  | some e =>
    rw [Backend.read, Backend.front_of_some hfails]
    refine ⟨w.served, ?_⟩
    dsimp only
    cases e.isAbsent <;> rfl
  | none =>
    rw [Backend.read_apply hfails]
    refine ⟨w.served + 1, ?_⟩
    cases ho : w.store.find? c.area u with
    | none =>
      simp only [Store.read, ho]
      rfl
    | some o =>
      simp only [Store.read, ho, hplace o ho]
      rfl

/-! ## Requests -/

/-- A failure that tells neither of an entry nor of its absence is the answer. -/
theorem readCache_of_not_canTell (hu : c.context.cacheUri cacheId objectId = .ok u)
    (hfails : w.faults.failing .attributes = some e) (habsent : e.isAbsent = false)
    (hasked : ttl ≠ none) : c.readCache cacheId objectId ttl w = (.error e, w) := by
  obtain ⟨d, rfl⟩ := Option.ne_none_iff_exists'.1 hasked
  have hask : c.askStale u (some d) w = (.error e, w) := by
    rw [askStale, isCacheExpired_of_failing hfails, habsent]
    rfl
  rw [readCache_eq, Action.guarded_bind_of_ok _ w hu, Action.bind_apply, hask]

theorem readCache_of_findsExpired (hu : c.context.cacheUri cacheId objectId = .ok u)
    (hexpired : c.FindsExpired w u ttl) :
    ∃ served, c.readCache cacheId objectId ttl w =
      (.ok none, (Backend.remove c.area u { w with served }).2) := by
  have htell : CanTell w ttl := by
    refine .inr fun e hfails => ?_
    rw [hexpired.1] at hfails
    cases hfails
  obtain ⟨served, stale, hask, hstale⟩ := askStale_of_canTell htell
  rw [hstale.2 hexpired] at hask
  refine ⟨served, ?_⟩
  rw [readCache_of_askStale hu hask]
  exact fetch_true_apply

theorem readCache_of_not_findsExpired (hu : c.context.cacheUri cacheId objectId = .ok u)
    (hplace : ∀ o, w.store.find? c.area u = some o → o.kind = .file) (htell : CanTell w ttl)
    (hexpired : ¬c.FindsExpired w u ttl) :
    ∃ served, c.readCache cacheId objectId ttl w = (c.contentAt w u, { w with served }) := by
  obtain ⟨served, stale, hask, hstale⟩ := askStale_of_canTell htell
  have hfresh : stale = false := Bool.eq_false_iff.2 fun h => hexpired (hstale.1 h)
  rw [hfresh] at hask
  obtain ⟨served', hfetch⟩ := fetch_false_apply (w := { w with served }) hplace
  refine ⟨served', ?_⟩
  rw [readCache_of_askStale hu hask]
  exact hfetch

/-- A request for an entry goes one of three ways. -/
theorem readCache_cases (hu : c.context.cacheUri cacheId objectId = .ok u)
    (hplace : ∀ o, w.store.find? c.area u = some o → o.kind = .file) (ttl : Option Nat) :
    (∃ e, ttl ≠ none ∧ w.faults.failing .attributes = some e ∧ e.isAbsent = false ∧
      c.readCache cacheId objectId ttl w = (.error e, w)) ∨
    (c.FindsExpired w u ttl ∧ ∃ served, c.readCache cacheId objectId ttl w =
      (.ok none, (Backend.remove c.area u { w with served }).2)) ∨
    (CanTell w ttl ∧ ¬c.FindsExpired w u ttl ∧ ∃ served,
      c.readCache cacheId objectId ttl w = (c.contentAt w u, { w with served })) := by
  by_cases hexpired : c.FindsExpired w u ttl
  · exact .inr (.inl ⟨hexpired, readCache_of_findsExpired hu hexpired⟩)
  · by_cases htell : CanTell w ttl
    · exact .inr (.inr ⟨htell, hexpired, readCache_of_not_findsExpired hu hplace htell hexpired⟩)
    · left
      simp only [CanTell, not_or, not_forall, Bool.not_eq_true] at htell
      obtain ⟨hasked, e, hfails, habsent⟩ := htell
      exact ⟨e, hasked, hfails, habsent, readCache_of_not_canTell hu hfails habsent hasked⟩

/-- A removal that fails at the front leaves all that is stored, and any other takes the entry. -/
theorem store_remove_of_file (hplace : ∀ o, w.store.find? c.area u = some o → o.kind = .file) :
    (w.faults.failing .delete ≠ none → (Backend.remove c.area u w).2.store = w.store) ∧
    (w.faults.failing .delete = none → ∀ k : Store.Key,
      (Backend.remove c.area u w).2.store.objects[k]? =
        if k = ⟨c.area, u⟩ then none else w.store.objects[k]?) := by
  constructor
  · intro hfails
    obtain ⟨e, he⟩ := Option.ne_none_iff_exists'.1 hfails
    rw [Backend.remove, Backend.front_of_some he]
  · intro hserved k
    have hfile : w.store.holdsDirectory ⟨c.area, u⟩ = false :=
      Store.holdsDirectory_eq_false_iff.2 hplace
    rw [Backend.remove_apply hserved, World.serving_store, Store.getElem?_remove, hfile]
    simp

/-- A request for an entry fails with what its first two calls have failed with. -/
theorem readCache_eq_error_iff (hu : c.context.cacheUri cacheId objectId = .ok u)
    (hplace : ∀ o, w.store.find? c.area u = some o → o.kind = .file) :
    (c.readCache cacheId objectId ttl w).1 = .error e ↔ e.isAbsent = false ∧
      (ttl ≠ none ∧ w.faults.failing .attributes = some e ∨
        CanTell w ttl ∧ ¬c.FindsExpired w u ttl ∧ w.faults.failing .get = some e) := by
  rcases readCache_cases hu hplace ttl with ⟨d, hasked, hfails, habsent, hread⟩ |
    ⟨hexpired, served, hread⟩ | ⟨htell, hexpired, served, hread⟩
  · rw [hread, Except.error.injEq]
    constructor
    · rintro rfl
      exact ⟨habsent, .inl ⟨hasked, hfails⟩⟩
    · rintro ⟨-, ⟨-, he⟩ | ⟨htell, -⟩⟩
      · exact Option.some.inj (hfails.symm.trans he)
      · rcases htell with hnone | htell
        · exact absurd hnone hasked
        · rw [htell d hfails] at habsent
          cases habsent
  · rw [hread]
    constructor
    · rintro ⟨⟩
    · rintro ⟨-, ⟨-, he⟩ | ⟨-, hcounts, -⟩⟩
      · -- What is found to have expired has had its attributes reported.
        rw [hexpired.1] at he
        cases he
      · exact absurd hexpired hcounts
  · rw [hread, contentAt_eq_error_iff]
    constructor
    · rintro ⟨hget, habsent⟩
      exact ⟨habsent, .inr ⟨htell, hexpired, hget⟩⟩
    · rintro ⟨habsent, ⟨hasked, he⟩ | ⟨-, -, hget⟩⟩
      · rcases htell with hnone | htell
        · exact absurd hnone hasked
        · rw [htell e he] at habsent
          cases habsent
      · exact ⟨hget, habsent⟩

/-- A request for an entry leaves all that is stored, unless it removes what has expired. -/
theorem store_readCache_of_kept (hu : c.context.cacheUri cacheId objectId = .ok u)
    (hplace : ∀ o, w.store.find? c.area u = some o → o.kind = .file)
    (hkept : ¬(c.FindsExpired w u ttl ∧ w.faults.failing .delete = none)) :
    (c.readCache cacheId objectId ttl w).2.store = w.store := by
  rcases readCache_cases hu hplace ttl with ⟨d, -, -, -, hread⟩ | ⟨hexpired, served, hread⟩ |
    ⟨-, -, served, hread⟩
  · rw [hread]
  · have hfails : w.faults.failing .delete ≠ none := fun hserved => hkept ⟨hexpired, hserved⟩
    rw [hread]
    exact (store_remove_of_file (w := { w with served }) hplace).1 hfails
  · rw [hread]

/-- Which calls fail, and how, decides what a request for an entry is answered and what it leaves,
where a file is or nothing. A failure of the attributes is the answer if they were asked for, one of
the content if the entry was not found to have expired, and in both cases only if it does not say
that nothing is there. An entry that was found to have expired is not there for the caller, and is
gone if its removal did not fail. Nothing else is ever gone. -/
theorem readCache_under_faults (hu : c.context.cacheUri cacheId objectId = .ok u)
    (hplace : ∀ o, w.store.find? c.area u = some o → o.kind = .file) (ttl : Option Nat) :
    let given := c.readCache cacheId objectId ttl w
    (∀ e, given.1 = .error e ↔ e.isAbsent = false ∧
      (ttl ≠ none ∧ w.faults.failing .attributes = some e ∨
        CanTell w ttl ∧ ¬c.FindsExpired w u ttl ∧ w.faults.failing .get = some e)) ∧
    (c.FindsExpired w u ttl → given.1 = .ok none) ∧
    (CanTell w ttl → ¬c.FindsExpired w u ttl → given.1 = c.contentAt w u) ∧
    (∀ e, w.faults.failing .attributes = some e → e.isAbsent = true →
      given.1 = (c.readCache cacheId objectId none w).1) ∧
    (c.FindsExpired w u ttl → w.faults.failing .delete = none → ∀ k : Store.Key,
      given.2.store.objects[k]? = if k = ⟨c.area, u⟩ then none else w.store.objects[k]?) ∧
    (¬(c.FindsExpired w u ttl ∧ w.faults.failing .delete = none) →
      given.2.store = w.store) := by
  intro given
  -- Of the answer nothing is left to show but for these two ways, whatever time is given.
  have hcontent : ∀ {ttl}, CanTell w ttl → ¬c.FindsExpired w u ttl →
      (c.readCache cacheId objectId ttl w).1 = c.contentAt w u := by
    intro ttl htell hexpired
    obtain ⟨served, hread⟩ := readCache_of_not_findsExpired hu hplace htell hexpired
    rw [hread]
  have hexpired : c.FindsExpired w u ttl → ∃ served, given =
      (.ok none, (Backend.remove c.area u { w with served }).2) := readCache_of_findsExpired hu
  refine ⟨fun e => readCache_eq_error_iff hu hplace, ?_, hcontent, ?_, ?_,
    store_readCache_of_kept hu hplace⟩
  · intro h
    obtain ⟨served, hread⟩ := hexpired h
    rw [hread]
  · -- What nothing is known of does not expire, and neither does what is not asked about.
    intro e hfails habsent
    have htell : ∀ ttl, CanTell w ttl := by
      intro ttl
      refine .inr fun d hd => ?_
      rw [Option.some.inj (hd.symm.trans hfails)]
      exact habsent
    have hnever : ∀ ttl, ¬c.FindsExpired w u ttl := by
      intro ttl h
      rw [h.1] at hfails
      cases hfails
    rw [hcontent (htell none) (hnever none)]
    exact hcontent (htell ttl) (hnever ttl)
  · intro h hserved k
    obtain ⟨served, hread⟩ := hexpired h
    rw [hread]
    exact (store_remove_of_file (w := { w with served }) hplace).2 hserved k

/-- Where the removal of an expired entry fails, the answer is that there is nothing, and the entry
stays. Where the attributes are not found, it is answered as if it had all the time there is. Where
they cannot be asked for, that is the answer. -/
theorem readCache_under_faults_of_expired :
    let c := Client.daily
    let u := Uri.ofNames (c.context.cacheNames ⟨"deps", by decide⟩ none)
    let o : Store.Object := ⟨⟨#[1]⟩, .file, 0, 0⟩
    let down : Failure := .backend (.stated "down")
    let gone : Failure := .io .notFound "gone"
    let w := fun call failure => { World.start .noon2024 with
      store := Store.empty.insert c.area u o, faults := Faults.none.set call (some failure) }
    let given := fun call failure => c.readCache "deps" none (some 0) (w call failure)
    (given .delete down).1 = .ok none ∧
      (given .delete down).2.store = (w .delete down).store ∧
      (given .attributes gone).1 = .ok (some o.content) ∧
      (given .attributes down).1 = .error down := by
  intro c u o down gone w given
  have hu : c.context.cacheUri "deps" none = .ok u :=
    Context.cacheUri_eq_ok_iff.2 ⟨⟨"deps", by decide⟩, none, rfl, rfl, rfl⟩
  have ho : ∀ call failure, (w call failure).store.find? c.area u = some o := by
    intro call failure
    rw [Store.find?_eq, Store.getElem?_insert, if_pos rfl]
  have hplace : ∀ call failure p, (w call failure).store.find? c.area u = some p →
      p.kind = .file := by
    intro call failure p hp
    rw [← Option.some.inj ((ho call failure).symm.trans hp)]
  have hfaults := fun call failure =>
    readCache_under_faults hu (hplace call failure) (some 0)
  have hexpired : c.FindsExpired (w .delete down) u (some 0) := by
    refine ⟨rfl, o, ⟨0, by decide⟩, 0, ho .delete down, rfl, rfl, ?_⟩
    show (0 : Int) + (0 : Nat) < Instant.noon2024.nanos
    decide
  refine ⟨(hfaults .delete down).2.1 hexpired, ?_, ?_, ?_⟩
  · refine (hfaults .delete down).2.2.2.2.2 ?_
    rintro ⟨-, ⟨⟩⟩
  · have hcontent := (hfaults .attributes gone).2.2.1 (.inr ?_) ?_
    · have hread : c.contentAt (w .attributes gone) u =
          .ok (((w .attributes gone).store.find? c.area u).map Store.Object.content) := rfl
      rw [hcontent, hread, ho]
      rfl
    · rintro e ⟨⟩
      rfl
    · rintro ⟨⟨⟩, -⟩
  · exact ((hfaults .attributes down).1 down).2 ⟨rfl, .inl ⟨Option.some_ne_none 0, rfl⟩⟩

end Depot.Client
