import Backlog.Store.Basic

/-!
# Stores in files

A store is kept as one JSON text, each row a list of its columns.
-/

namespace Backlog.Store

open Json

/-! ## Columns -/

def textColumn : Option String → Json
  | some s => .str s
  | none => .null

def readTextColumn? : Json → Option (Option String)
  | .str s => some (some s)
  | .null => some none
  | _ => none

def numberColumn : Option Int → Json
  | some n => .int n
  | none => .null

def readNumberColumn? : Json → Option (Option Int)
  | .int n => some (some n)
  | .null => some none
  | _ => none

/-! ## Rows -/

def TypeRow.toJson (r : TypeRow) : Json :=
  .arr [.str r.name, .int r.version, textColumn r.parent, .str r.fieldsText]

def TypeRow.ofJson? : Json → Option TypeRow
  | .arr [.str name, .int version, parent, .str fieldsText] => do
    return ⟨name, version, ← readTextColumn? parent, fieldsText⟩
  | _ => none

def ItemRow.toJson (r : ItemRow) : Json :=
  .arr [.int r.id, .str r.typeName, .int r.version, .str r.fieldsText, .bool r.deleted,
    .int r.created, .int r.updated, textColumn r.unreadable]

def ItemRow.ofJson? : Json → Option ItemRow
  | .arr [.int id, .str typeName, .int version, .str fieldsText, .bool deleted, .int created,
      .int updated, unreadable] => do
    return ⟨id.toNat, typeName, version, fieldsText, deleted, created, updated,
      ← readTextColumn? unreadable⟩
  | _ => none

def IdentityRow.toJson (r : IdentityRow) : Json :=
  .arr [.str r.id, .str r.fullName, textColumn r.imageUrl]

def IdentityRow.ofJson? : Json → Option IdentityRow
  | .arr [.str id, .str fullName, imageUrl] => do
    return ⟨id, fullName, ← readTextColumn? imageUrl⟩
  | _ => none

def IterationRow.toJson (r : IterationRow) : Json :=
  .arr [.str r.id, .str r.space, textColumn r.parent, .str r.name, textColumn r.description,
    numberColumn r.start, numberColumn r.stop, .str r.state, .int r.created,
    textColumn r.unreadable]

def IterationRow.ofJson? : Json → Option IterationRow
  | .arr [.str id, .str space, parent, .str name, description, start, stop, .str state,
      .int created, unreadable] => do
    return ⟨id, space, ← readTextColumn? parent, name, ← readTextColumn? description,
      ← readNumberColumn? start, ← readNumberColumn? stop, state, created,
      ← readTextColumn? unreadable⟩
  | _ => none

/-! ## Stores -/

def toJson (s : Store) : Json :=
  .arr [.arr (s.types.map TypeRow.toJson), .arr (s.items.map ItemRow.toJson), .int s.lastItem,
    .arr (s.identities.map IdentityRow.toJson), .arr (s.iterations.map IterationRow.toJson)]

def ofJson? : Json → Option Store
  | .arr [.arr types, .arr items, .int lastItem, .arr identities, .arr iterations] => do
    return ⟨← types.mapM TypeRow.ofJson?, ← items.mapM ItemRow.ofJson?, lastItem.toNat,
      ← identities.mapM IdentityRow.ofJson?, ← iterations.mapM IterationRow.ofJson?⟩
  | _ => none

end Backlog.Store
