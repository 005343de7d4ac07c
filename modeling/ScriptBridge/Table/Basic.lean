import ScriptBridge.Table.Layout

/-!
# Tables

A table gives values to keys. Keys are normal: a double that is an integer is the integer, so
equality of keys is equality of values. The items of a sequence that was filled in order are kept in
an array, and everything else in a list of entries; a key in the range of the array is found there
and nowhere else.
-/

namespace ScriptBridge

/-- The key under which a table files a value: doubles that are integers are filed as integers. -/
def Value.normalKey : Value → Value
  | .number d =>
    match d.exactInteger? with
    | some i => .integer i
    | none => .number d
  | v => v

/-- A table: its items in order, its entries under distinct normal keys, its layout, and the table
that holds its metamethods. -/
structure Table where
  items : Array Value
  entries : List (Value × Value)
  layout : Layout
  metatable : Option ObjectId
deriving Repr

namespace Table

/-- The table without entries. -/
def empty : Table := ⟨#[], [], .empty, none⟩

instance : Inhabited Table := ⟨empty⟩

/-- The table without entries, laid out for so many items and so many other entries. -/
def withRoom (items fields : Nat) : Table :=
  { empty with layout := Layout.empty.resized (fun _ => false) items fields }

/-- The first value filed under a normal key. -/
def lookup (key : Value) : List (Value × Value) → Value
  | [] => .nil
  | (k, v) :: rest => if k = key then v else lookup key rest

/-- The entries with the value under a normal key replaced. -/
def replace (key value : Value) : List (Value × Value) → List (Value × Value)
  | [] => []
  | (k, v) :: rest =>
    if k = key then (key, value) :: rest else (k, v) :: replace key value rest

/-- The entries with a value filed under a normal key: nil removes the entry, and a new one comes
before the others. -/
def file (key value : Value) (entries : List (Value × Value)) : List (Value × Value) :=
  if value = .nil then entries.filter fun entry => entry.1 ≠ key
  else if entries.any fun entry => entry.1 = key then replace key value entries
  else (key, value) :: entries

/-- The value under a normal key. -/
def find (t : Table) (key : Value) : Value :=
  match key with
  | .integer i =>
    if 0 < i.toInt ∧ i.toInt ≤ t.items.size then t.items.getD (i.toInt.toNat - 1) .nil
    else lookup key t.entries
  | _ => lookup key t.entries

/-- The value under a key, nil when there is none. -/
def get (t : Table) (key : Value) : Value := t.find key.normalKey

/-- The table with a value under a normal key, laid out as before. -/
def put (t : Table) (key value : Value) : Table :=
  match key with
  | .integer i =>
    if 0 < i.toInt ∧ i.toInt ≤ t.items.size then
      { t with items := t.items.setIfInBounds (i.toInt.toNat - 1) value }
    else if i.toInt = t.items.size + 1 ∧ value ≠ .nil then
      { t with items := t.items.push value }
    else { t with entries := file key value t.entries }
  | _ => { t with entries := file key value t.entries }

/-- The layout of the table after a value was put under a normal key. -/
def layoutAfter (t : Table) (key value : Value) : Layout :=
  let layout := t.layout.touched key
  if value = .nil ∨ layout.reaches key ∨ t.find key ≠ .nil then layout
  else layout.file (fun k => t.find k ≠ .nil) key

/-- The table with a value under a key. -/
def set (t : Table) (key value : Value) : Table :=
  let key := key.normalKey
  let layout := t.layoutAfter key value
  { t.put key value with layout := layout }

/-- The table after a key was looked up, which only its layout remembers. -/
def touched (t : Table) (key : Value) : Table :=
  { t with layout := t.layout.touched key.normalKey }

/-- The value under an integer. -/
def item (t : Table) (i : Nat) : Value := t.find (.integer (Int64.ofNat i))

/-- An end of the items, and the table that remembers it. -/
def measured (t : Table) : Nat × Table :=
  let (length, layout) := t.layout.measure fun i => t.item i ≠ .nil
  (length, { t with layout := layout })

/-- The table with values as items from a position on, in places of their own. -/
def setItems (t : Table) (position : Nat) (values : List Value) : Table :=
  let last := position - 1 + values.length
  let layout :=
    if t.layout.reach < last then
      t.layout.resized (fun k => t.find k ≠ .nil) last t.layout.nodes.size
    else t.layout
  { (values.zipIdx position).foldl (fun t (v, i) => t.put (.integer (Int64.ofNat i)) v) t with
    layout := layout }

/-- The keys with their values: the items first, then the entries. -/
def toList (t : Table) : List (Value × Value) :=
  let items := (t.items.toList.zipIdx 1).map fun (v, i) => (.integer (Int64.ofNat i), v)
  items.filter (fun entry => entry.2 ≠ .nil) ++ t.entries

end Table

end ScriptBridge
