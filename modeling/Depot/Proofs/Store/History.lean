import Mathlib.Data.List.DropRight
import Depot.Proofs.Action.Footprint

/-!
# The store as its history

What is under a key of the store can be told from what was done since the store was empty, without
looking at the store: from the writes and the makings of directories that succeeded under the key
after it was last removed (`History.landed`). The first of them is when the object was created, the
last one has its content (`getElem?_run`, `answers_eq_history`).

A removal reaches other keys than its own when it finds the mark of a directory, so that what counts
as a removal of a key depends on the store at that moment (`Record.removes`). The invariant is about
one key and all that was noted; `stepsTo_step` says what one operation does to it.
-/

namespace Depot.Store

/-! ## Operations, and what is noted of them -/

/-- An operation of the store. -/
inductive Op where
  | contains (k : Key)
  | read (k : Key)
  | attributes (k : Key)
  | list (k : Key)
  | write (k : Key) (content : ByteArray)
  | makeDirectory (k : Key)
  | remove (k : Key)
  | removeUnder (k : Key)

/-- The operation as a step of the world, its answer left out. -/
def Op.perform : Op → Action Unit
  | .contains k => (fun _ => ()) <$> Vault.contains k.area k.uri
  | .read k => (fun _ => ()) <$> Vault.read k.area k.uri
  | .attributes k => (fun _ => ()) <$> Vault.attributes k.area k.uri
  | .list k => (fun _ => ()) <$> Vault.list k.area k.uri
  | .write k content => (fun _ => ()) <$> Vault.write k.area k.uri content
  | .makeDirectory k => (fun _ => ()) <$> Vault.makeDirectory k.area k.uri
  | .remove k => (fun _ => ()) <$> Vault.remove k.area k.uri
  | .removeUnder k => (fun _ => ()) <$> Vault.removeUnder k.area k.uri

/-- What is noted of an operation: the store that it found, when it was asked for, and whether it
succeeded. -/
structure Record where
  before : Store
  time : Instant
  op : Op
  succeeded : Bool

namespace Record

/-- The operation was a removal of what is under a key: of the key, of the mark of a directory above
it, or of a whole branch that it is in. -/
def removes (k : Key) (r : Record) : Bool :=
  match r.op with
  | .remove d => d == k || (r.before.holdsDirectory d && k.isUnder d.area d.uri)
  | .removeUnder p => k.isUnder p.area p.uri
  | _ => false

/-- The operation wrote a file or made a directory under a key, and succeeded. -/
def puts (k : Key) (r : Record) : Bool :=
  match r.op with
  | .write j _ => r.succeeded && j == k
  | .makeDirectory j => r.succeeded && j == k
  | _ => false

/-- What was put there. -/
def kind (r : Record) : FileKind :=
  match r.op with
  | .write .. => .file
  | _ => .directory

/-- The bytes that were put there. -/
def content (r : Record) : ByteArray :=
  match r.op with
  | .write _ content => content
  | _ => .empty

end Record

/-- The world, and what has been noted of all operations so far. -/
structure History where
  world : World
  records : List Record

namespace History

/-- Nothing is stored, and nothing has been done. -/
def start (w : World) : History :=
  ⟨{ w with store := .empty }, []⟩

/-- What is noted of one more operation, with the clock set to any instant before it. -/
def noted (h : History) (call : Instant × Op) : Record :=
  ⟨h.world.store, call.1, call.2, (call.2.perform { h.world with clock := call.1 }).1.toBool⟩

/-- The history after one more operation. -/
def step (h : History) (call : Instant × Op) : History where
  world := (call.2.perform { h.world with clock := call.1 }).2
  records := h.records ++ [h.noted call]

/-- The history of some operations, from an empty store. -/
def run (w : World) (calls : List (Instant × Op)) : History :=
  calls.foldl step (start w)

/-- What succeeded under a key after the last removal of it. -/
def landed (h : History) (k : Key) : List Record :=
  (h.records.rtakeWhile fun r => !r.removes k).filter (·.puts k)

end History

/-- The object that is left by what was put in its place, from the first to the last. A directory
stays as it was made. -/
def Record.object (first last : Record) : Object where
  content := last.content
  kind := last.kind
  created := first.time.millis
  modified := match last.kind with
    | .file => last.time.millis
    | .directory => first.time.millis

/-- The object that is left by a list of successes, none if there were none. -/
def leftBy : List Record → Option Object
  | [] => none
  | first :: later => some (Record.object first (later.getLastD first))

/-! ## One more operation -/

namespace History

variable {h : History} {k : Key}

theorem run_append_singleton (w : World) (calls : List (Instant × Op)) (call : Instant × Op) :
    run w (calls ++ [call]) = (run w calls).step call := by
  simp only [run, List.foldl_append, List.foldl_cons, List.foldl_nil]

/-- After a removal nothing has landed; anything else keeps what has, and may be added to it. -/
theorem landed_step (call : Instant × Op) :
    (h.step call).landed k =
      if (h.noted call).removes k = true then []
      else if (h.noted call).puts k = true then h.landed k ++ [h.noted call]
      else h.landed k := by
  simp only [landed, step, List.rtakeWhile_concat]
  by_cases hr : (h.noted call).removes k = true
  · simp [hr]
  · by_cases hp : (h.noted call).puts k = true <;> simp [hr, hp]

end History

/-- One more success is the last one; it is the first one too if nothing had landed. -/
theorem leftBy_append_singleton (puts : List Record) (last : Record) :
    leftBy (puts ++ [last]) = some (Record.object (puts.headD last) last) := by
  cases puts with
  | nil => rfl
  | cons first later => simp [leftBy]

/-! ## What operations do to the store -/

namespace Op

theorem look_store {α : Type} (op : Store → Except Failure α) (w : World) :
    (((fun _ => ()) <$> Vault.look op : Action Unit) w).2.store = w.store := by
  simp only [Action.map_apply, Vault.look, Vault.serve]
  cases op w.store <;> rfl

/-- A write succeeds if a file can take the place of what is there, and changes nothing if not. -/
theorem write_perform (j : Key) (content : ByteArray) (w : World) :
    let written := writtenOver w.clock.millis j.uri content w.store.objects[j]?
    ((Op.write j content).perform w).1.toBool = written.toBool ∧
      ((Op.write j content).perform w).2.store = match written with
        | .ok o => w.store.insert j.area j.uri o
        | .error _ => w.store := by
  simp only [perform, Action.map_apply, Vault.write, Vault.serve, write_eq, find?_eq]
  cases writtenOver w.clock.millis j.uri content w.store.objects[j]? <;> exact ⟨rfl, rfl⟩

/-- The making of a directory succeeds unless a file is there, and marks it if nothing is. -/
theorem makeDirectory_perform (j : Key) (w : World) :
    let made := madeOver j.uri w.store.objects[j]?
    ((Op.makeDirectory j).perform w).1.toBool = made.toBool ∧
      ((Op.makeDirectory j).perform w).2.store = match made with
        | .ok true =>
          w.store.insert j.area j.uri ⟨.empty, .directory, w.clock.millis, w.clock.millis⟩
        | _ => w.store := by
  simp only [perform, Action.map_apply, Vault.makeDirectory, Vault.serve, makeDirectory_eq,
    find?_eq]
  cases madeOver j.uri w.store.objects[j]? with
  | error e => exact ⟨rfl, rfl⟩
  | ok new => cases new <;> exact ⟨rfl, rfl⟩

theorem remove_perform (d : Key) (w : World) :
    ((Op.remove d).perform w).2.store = (w.store.remove d.area d.uri).2 :=
  rfl

theorem removeUnder_perform (p : Key) (w : World) :
    ((Op.removeUnder p).perform w).2.store = w.store.prune p.area p.uri :=
  rfl

end Op

/-! ## What one operation does to a key -/

/-- What a success leaves in the place of what was there. -/
def Record.over (r : Record) : Option Object → Object
  | none => Record.object r r
  | some o =>
    match r.kind with
    | .file => ⟨r.content, .file, o.created, r.time.millis⟩
    | .directory => o

namespace History

variable {h : History} {k : Key}

/-- A key is empty after a removal, holds what was put there after a success, and is as it was
after anything else. -/
def StepsTo (h : History) (k : Key) (call : Instant × Op) : Prop :=
  (h.step call).world.store.objects[k]? =
    if (h.noted call).removes k = true then none
    else if (h.noted call).puts k = true then some ((h.noted call).over h.world.store.objects[k]?)
    else h.world.store.objects[k]?

theorem stepsTo_write (time : Instant) (j : Key) (content : ByteArray) :
    h.StepsTo k (time, .write j content) := by
  obtain ⟨hok, hstore⟩ := Op.write_perform j content { h.world with clock := time }
  simp only [StepsTo, step, hstore, noted, Record.removes, Record.puts, hok]
  by_cases hk : k = j
  · subst hk
    -- What stands under the key decides whether the write succeeds.
    cases ho : h.world.store.objects[k]? with
    | none =>
      simp [writtenOver, Except.toBool, getElem?_insert, Record.over, Record.object, Record.kind,
        Record.content]
    | some o =>
      cases hd : o.kind with
      | file =>
        simp [writtenOver, Except.toBool, hd, getElem?_insert, Record.over, Record.kind,
          Record.content]
      | directory => simp [writtenOver, Except.toBool, hd, ho]
  · have hjk : (j == k) = false := by simpa using Ne.symm hk
    cases writtenOver time.millis j.uri content h.world.store.objects[j]? <;>
      simp [getElem?_insert, hk, hjk]

theorem stepsTo_makeDirectory (time : Instant) (j : Key) :
    h.StepsTo k (time, .makeDirectory j) := by
  obtain ⟨hok, hstore⟩ := Op.makeDirectory_perform j { h.world with clock := time }
  simp only [StepsTo, step, hstore, noted, Record.removes, Record.puts, hok]
  by_cases hk : k = j
  · subst hk
    cases ho : h.world.store.objects[k]? with
    | none =>
      simp [madeOver, Except.toBool, getElem?_insert, Record.over, Record.object, Record.kind,
        Record.content]
    | some o =>
      cases hd : o.kind with
      | file => simp [madeOver, Except.toBool, hd, ho]
      | directory => simp [madeOver, Except.toBool, hd, ho, Record.over, Record.kind]
  · have hjk : (j == k) = false := by simpa using Ne.symm hk
    cases madeOver j.uri h.world.store.objects[j]? with
    | error e => simp [hjk]
    | ok new => cases new <;> simp [getElem?_insert, hk, hjk]

theorem stepsTo_step (h : History) (k : Key) (call : Instant × Op) : h.StepsTo k call := by
  obtain ⟨time, op⟩ := call
  cases op with
  -- Looking changes nothing, and is noted as neither a removal nor a success.
  | contains j =>
    exact congrArg (·.objects[k]?) (Op.look_store (fun s => .ok (s.contains j.area j.uri)) _)
  | read j => exact congrArg (·.objects[k]?) (Op.look_store (·.read j.area j.uri) _)
  | attributes j => exact congrArg (·.objects[k]?) (Op.look_store (·.attributes j.area j.uri) _)
  | list j =>
    exact congrArg (·.objects[k]?) (Op.look_store (fun s => .ok (s.list j.area j.uri)) _)
  | write j content => exact stepsTo_write time j content
  | makeDirectory j => exact stepsTo_makeDirectory time j
  -- Both removals are noted as such under exactly the keys that they empty.
  | remove d =>
    simp only [StepsTo, step, Op.remove_perform, getElem?_remove, noted, Record.removes,
      Record.puts, Bool.or_eq_true, Bool.and_eq_true, beq_iff_eq, @eq_comm _ d k,
      Bool.false_eq_true, if_false]
  | removeUnder p =>
    simp only [StepsTo, step, Op.removeUnder_perform, getElem?_prune, noted, Record.removes,
      Record.puts, Bool.false_eq_true, if_false]

/-- What succeeds under a key is of the kind of what is there. -/
theorem kind_of_puts {call : Instant × Op} {o : Object} (hp : (h.noted call).puts k = true)
    (ho : h.world.store.objects[k]? = some o) : o.kind = (h.noted call).kind := by
  obtain ⟨time, op⟩ := call
  cases op with
  | write j content =>
    have hok := (Op.write_perform j content { h.world with clock := time }).1
    simp only [noted, Record.puts, Record.kind, hok, Bool.and_eq_true, beq_iff_eq] at hp ⊢
    obtain ⟨hp, rfl⟩ := hp
    cases hd : o.kind with
    | file => rfl
    | directory => simp [writtenOver, Except.toBool, ho, hd] at hp
  | makeDirectory j =>
    have hok := (Op.makeDirectory_perform j { h.world with clock := time }).1
    simp only [noted, Record.puts, Record.kind, hok, Bool.and_eq_true, beq_iff_eq] at hp ⊢
    obtain ⟨hp, rfl⟩ := hp
    cases hd : o.kind with
    | file => simp [madeOver, Except.toBool, ho, hd] at hp
    | directory => rfl
  | _ => cases hp

end History

theorem Record.content_of_directory {r : Record} (h : r.kind = .directory) :
    r.content = .empty := by
  unfold kind at h
  unfold content
  split at h
  · cases h
  · rfl

/-- One more success of the same kind adds to what is left as it changes what is there. -/
theorem leftBy_append_of_kind {puts : List Record} {r : Record}
    (hk : ∀ o, leftBy puts = some o → o.kind = r.kind) :
    leftBy (puts ++ [r]) = some (r.over (leftBy puts)) := by
  rw [leftBy_append_singleton]
  cases puts with
  | nil => rfl
  | cons first later =>
    have hkind : (later.getLastD first).kind = r.kind := hk _ rfl
    simp only [leftBy, List.headD_cons, Record.over, Record.object, hkind]
    cases hr : r.kind with
    | file => rfl
    | directory =>
      -- A directory that is made again stays as it was, and both have no content.
      have hlast := Record.content_of_directory (hkind.trans hr)
      rw [hlast, Record.content_of_directory hr]

/-! ## Histories -/

namespace History

/-- What is under a key is what was left there since it was last removed. -/
theorem getElem?_run (w : World) (calls : List (Instant × Op)) (k : Key) :
    (run w calls).world.store.objects[k]? = leftBy ((run w calls).landed k) := by
  -- By induction on the operations from the last one back: a removal cuts off what was before it.
  induction calls using List.reverseRecOn with
  | nil => rfl
  | append_singleton calls call ih =>
    rw [run_append_singleton, stepsTo_step, landed_step]
    split
    · rfl
    split
    · next hp =>
      rw [ih, leftBy_append_of_kind]
      intro o ho
      exact kind_of_puts hp (ih.trans ho)
    · exact ih

theorem look_answer {α : Type} (op : Store → Except Failure α) (w : World) :
    (Vault.look op w).1 = op w.store := by
  simp only [Vault.look, Vault.serve]
  cases op w.store <;> rfl

/-- What the store answers about a key can be told from what was done since it was empty. Nothing
is there if nothing succeeded after the last removal. Otherwise the content is that of the last
success, a directory has none, and the times are the first one and the last one at which a file was
written, or the one at which the directory was made. -/
theorem answers_eq_history (w : World) (calls : List (Instant × Op)) (k : Key) :
    let h := run w calls
    let contains := (Vault.contains k.area k.uri h.world).1
    let read := (Vault.read k.area k.uri h.world).1
    let attributes := (Vault.attributes k.area k.uri h.world).1
    match h.landed k with
    | [] =>
      contains = .ok false ∧
      read = .error (.notFound k.uri.text) ∧
      attributes = .error (.notFound k.uri.text)
    | first :: later =>
      let last := later.getLastD first
      contains = .ok true ∧
      read = (match last.op with
        | .write _ content => .ok content
        | _ => .error (.backend (.readDirectory k.uri.text))) ∧
      attributes = .ok {
        fileName := k.uri.fileName?.getD ""
        kind := last.kind
        size := last.content.size
        created := first.time.millis
        modified := match last.kind with
          | .file => last.time.millis
          | .directory => first.time.millis } := by
  intro h contains read attributes
  have hk : h.world.store.find? k.area k.uri = leftBy (h.landed k) := getElem?_run w calls k
  have hc : contains = .ok (h.world.store.contains k.area k.uri) := look_answer _ _
  have hr : read = h.world.store.read k.area k.uri := look_answer _ _
  have ha : attributes = h.world.store.attributes k.area k.uri := look_answer _ _
  simp only [hc, hr, ha, Store.contains, Store.read, Store.attributes, hk]
  cases h.landed k with
  | nil => exact ⟨rfl, rfl, rfl⟩
  | cons first later =>
    refine ⟨rfl, ?_, rfl⟩
    simp only [leftBy, Record.object, Record.kind, Record.content]
    cases (later.getLastD first).op <;> rfl

end History

end Depot.Store
