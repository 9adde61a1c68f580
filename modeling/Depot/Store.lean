import Depot.Entry
import Depot.Uri.Order

/-!
# The store

The store keeps objects under keys, an area and a reference each, in the order of the keys. Every
operation acts in one area only, whatever the reference says. An object is a file or the mark of a
directory; a directory may also just be there because an object lies below it, and then only
listings show it.

Operations that stamp objects take the time as milliseconds.
-/

namespace Depot

namespace Store

/-- What an object is kept under. -/
structure Key where
  area : Area
  uri : Uri
  deriving DecidableEq

namespace Key

/-- Keys are in the order of the tenant, none before all, then the namespace, then the text. -/
def order : Key → Key → Ordering :=
  compareLex (compareOn fun k => k.area.tenant.map Ident.text)
    (compareLex (compareOn fun k => k.area.space.text) (compareOn Key.uri))

instance : Std.TransCmp order := by
  unfold order
  infer_instance

theorem tenant_text_injective {a b : Option (Ident .tenant)}
    (h : a.map Ident.text = b.map Ident.text) : a = b := by
  cases a with
  | none => cases b with
    | none => rfl
    | some _ => simp at h
  | some a => cases b with
    | none => simp at h
    | some b =>
      cases a with | mk a => cases b with | mk b =>
      cases a; cases b
      simpa [Ident.text] using h

instance : Std.LawfulEqCmp order where
  eq_of_compare := by
    rintro ⟨⟨t, n⟩, u⟩ ⟨⟨t', n'⟩, u'⟩ h
    simp only [order, compareLex, compareOn, Ordering.then_eq_eq] at h
    have ht := tenant_text_injective (Std.LawfulEqCmp.eq_of_compare h.1)
    have hn := Std.LawfulEqCmp.eq_of_compare h.2.1
    have hu := Std.LawfulEqCmp.eq_of_compare h.2.2
    cases n; cases n'
    simp_all

end Key

/-- A stored object; times are milliseconds since 1970. -/
structure Object where
  content : ByteArray
  kind : FileKind
  created : Int
  modified : Int

/-- What is reported of an object that is kept under a reference. -/
def Object.attributes (o : Object) (uri : Uri) : FileAttributes where
  fileName := uri.fileName?.getD ""
  kind := o.kind
  size := o.content.size
  created := o.created
  modified := o.modified

end Store

/-- All objects, by their keys. -/
structure Store where
  objects : Std.ExtTreeMap Store.Key Store.Object Store.Key.order

namespace Store

/-- A store without objects. -/
def empty : Store := ⟨∅⟩

/-- The number of objects, directories included, of all tenants. -/
def size (s : Store) : Nat :=
  s.objects.size

/-- The object that is kept under a reference in an area. -/
def find? (s : Store) (area : Area) (uri : Uri) : Option Object :=
  s.objects[(⟨area, uri⟩ : Key)]?

/-- Whether a key is in an area, at a reference or below it. -/
def Key.isUnder (k : Key) (area : Area) (base : Uri) : Bool :=
  k.area == area && k.uri.startsWith base

/-! ## Single objects -/

/-- Whether there is an object. -/
def contains (s : Store) (area : Area) (uri : Uri) : Bool :=
  (s.find? area uri).isSome

/-- The content of a file. -/
def read (s : Store) (area : Area) (uri : Uri) : Except Failure ByteArray :=
  match s.find? area uri with
  | none => .error (.notFound uri.text)
  | some o =>
    match o.kind with
    | .file => .ok o.content
    | .directory => .error (.backend (.readDirectory uri.text))

/-- What is reported of an object. -/
def attributes (s : Store) (area : Area) (uri : Uri) : Except Failure FileAttributes :=
  match s.find? area uri with
  | none => .error (.notFound uri.text)
  | some o => .ok (o.attributes uri)

/-- The store with one object put in its place. -/
def insert (s : Store) (area : Area) (uri : Uri) (o : Object) : Store :=
  ⟨s.objects.insert ⟨area, uri⟩ o⟩

/-- Writes a file; one that was there keeps the time it was created. -/
def write (s : Store) (now : Int) (area : Area) (uri : Uri) (content : ByteArray) :
    Except Failure Store :=
  match s.find? area uri with
  | none => .ok (s.insert area uri ⟨content, .file, now, now⟩)
  | some o =>
    match o.kind with
    | .file => .ok (s.insert area uri ⟨content, .file, o.created, now⟩)
    | .directory => .error (.backend (.writeDirectory uri.text))

/-- Makes a directory, and answers whether it was not there before. -/
def makeDirectory (s : Store) (now : Int) (area : Area) (uri : Uri) :
    Except Failure (Bool × Store) :=
  match s.find? area uri with
  | none => .ok (true, s.insert area uri ⟨.empty, .directory, now, now⟩)
  | some o =>
    match o.kind with
    | .file => .error (.alreadyExists (.file uri.text))
    | .directory => .ok (false, s)

/-! ## Whole branches -/

/-- The store without the objects at a reference and below it. -/
def prune (s : Store) (area : Area) (base : Uri) : Store :=
  ⟨s.objects.filter fun k _ => !k.isUnder area base⟩

/-- The keys at a reference and below it, in order. -/
def keysUnder (s : Store) (area : Area) (base : Uri) : List Key :=
  s.objects.keys.filter (·.isUnder area base)

/-- Removes an object, a directory with all below it, and answers whether it was there. -/
def remove (s : Store) (area : Area) (uri : Uri) : Bool × Store :=
  match s.find? area uri with
  | none => (false, s)
  | some o =>
    match o.kind with
    | .file => (true, ⟨s.objects.erase ⟨area, uri⟩⟩)
    | .directory => (true, s.prune area uri)

/-- Removes all objects at a reference and below it, and answers where they were. -/
def removeUnder (s : Store) (area : Area) (base : Uri) : List Uri × Store :=
  ((s.keysUnder area base).map Key.uri, s.prune area base)

/-! ## Listings -/

/-- A listing in the making: what is reported, by reference. -/
abbrev Listing := Std.ExtTreeMap Uri FileAttributes

/-- The directories that lead from `base` to the object that the decoded segments name. -/
def ancestors (base : Uri) (segments : List String) : List (Uri × String) :=
  (segments.dropLast.zipIdx).map fun (name, i) => (base.join (segments.take (i + 1)), name)

/-- Reports a directory that an object lies below: as old as its oldest object, and changed when
its youngest one was. -/
def Listing.addAncestor (l : Listing) (o : Object) (dir : Uri × String) : Listing :=
  l.alter dir.1 fun
    | some a => some { a with
        created := min a.created o.created
        modified := max a.modified o.modified }
    | none => some ⟨dir.2, .directory, 0, o.created, o.modified⟩

/-- The objects strictly below `base`, with their decoded segments from there. -/
def below (s : Store) (area : Area) (base : Uri) : List (Uri × List String × Object) :=
  s.objects.toList.filterMap fun (k, o) =>
    if k.isUnder area base then
      match k.uri.relativeTo base with
      | some (name :: names) => some (k.uri, name :: names, o)
      | _ => none
    else none

/-- All that is strictly below `base`, in order: the objects, and the directories that lead to
them and are no objects themselves. -/
def list (s : Store) (area : Area) (base : Uri) : List Entry :=
  let found := s.below area base
  let objects : Listing := found.foldl (fun l (uri, _, o) => l.insert uri (o.attributes uri)) ∅
  let directories : Listing := found.foldl (fun l (_, segments, o) =>
    (ancestors base segments).foldl (·.addAncestor o ·) l) ∅
  let all := directories.foldl (fun l uri a => l.insertIfNew uri a) objects
  all.toList.map fun (uri, a) => ⟨uri, a⟩

end Store

end Depot
