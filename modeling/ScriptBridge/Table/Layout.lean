import ScriptBridge.Value

/-!
# Layouts of tables

A table keeps the values of the keys `1`, `2`, … up to its reach in places of their own, and files
other keys in nodes. What it holds does not depend on that, but the length that it reports does when
there are gaps among the keys: the length is sought from the end of the places on. A layout knows
the reach and the keys in the nodes, and how both change when a key is filed.
-/

namespace ScriptBridge

/-- A layout: how many keys have places of their own, where the end was found last, the keys in the
nodes, and how many nodes may still be free. The number of nodes is zero or a power of two. -/
structure Layout where
  reach : Nat
  hint : Nat
  nodes : Array (Option Value)
  free : Nat
deriving Repr

namespace Layout

/-- The layout without places and nodes. -/
def empty : Layout := ⟨0, 0, #[], 0⟩

instance : Inhabited Layout := ⟨empty⟩

/-- The exponent of the least power of two that is not below a number. -/
def ceilLog2 (n : Nat) : Nat := if n ≤ 1 then 0 else (n - 1).log2 + 1

/-- The number by which a key chooses its node. -/
def spread : Value → Nat
  | .nil => 0
  | .boolean b => b.toNat
  | .integer i => i.toUInt64.toNat
  | .number d => d.bits.toNat
  | .string bytes => bytes.foldl (fun h b => (h * 31 + b.toNat) % 4294967296) bytes.length
  | .table id | .function id | .userdata id | .lightUserdata id | .thread id => id
  | .failure _ mark => mark

/-- The node that a key chooses among so many. -/
def mainNode (size : Nat) (key : Value) : Nat :=
  match key with
  | .boolean _ | .string _ => spread key % size
  | _ => spread key % max 1 (size - 1)

/-- The last free node below a number. -/
def freeNode (nodes : Array (Option Value)) : Nat → Option Nat
  | 0 => none
  | n + 1 =>
    match nodes[n]? with
    | some none => some n
    | _ => freeNode nodes n

/-- The layout with a key in a node, if there is one for it. A key whose node is taken by one that
chose the same node gets a free one; one that had come there for that reason has to make room. The
node of a key without a value is not taken. -/
def place? (isLive : Value → Bool) (key : Value) (l : Layout) : Option Layout :=
  if l.nodes.isEmpty then none
  else
    let main := mainNode l.nodes.size key
    match l.nodes[main]? with
    | some (some other) =>
      if isLive other then
        match freeNode l.nodes l.free with
        | some f =>
          let isGuest := mainNode l.nodes.size other ≠ main
          let nodes :=
            if isGuest then (l.nodes.setIfInBounds f (some other)).setIfInBounds main (some key)
            else l.nodes.setIfInBounds f (some key)
          some { l with nodes := nodes, free := f }
        | none => none
      else some { l with nodes := l.nodes.setIfInBounds main (some key) }
    | _ => some { l with nodes := l.nodes.setIfInBounds main (some key) }

/-- The key of a place. -/
def placeKey (n : Nat) : Value := .integer (Int64.ofNat n)

/-- The key has a place of its own. -/
def reaches (l : Layout) : Value → Bool
  | .integer i => 0 < i.toInt && i.toInt ≤ l.reach
  | _ => false

/-- The layout with another reach and room for so many keys in nodes. The keys with a value keep
their places or are filed anew. -/
def resized (isLive : Value → Bool) (reach count : Nat) (l : Layout) : Layout :=
  let size := if count = 0 then 0 else pow2 (ceilLog2 count)
  let start : Layout := ⟨reach, reach, Array.replicate size none, size⟩
  let beyond := (List.range (l.reach - reach)).map fun i => placeKey (reach + i + 1)
  let vanishing := beyond.filter isLive
  let filed := l.nodes.toList.filterMap fun key =>
    key.bind fun key => if isLive key then some key else none
  (vanishing ++ filed).foldl
    (fun l key => if l.reaches key then l else (l.place? (fun _ => true) key).getD l) start

/-- The place that a key could have. -/
def candidate? : Value → Option Nat
  | .integer i => if 0 < i.toInt && i.toInt ≤ pow2 31 then some i.toInt.toNat else none
  | _ => none

/-- The greatest power of two more than half of whose places would be taken, and how many would be.
`counts` tells how many keys lie between two powers of two; `below` counts those before the power at
hand. -/
def bestReach (counts : Array Nat) (total : Nat) :
    Nat → Nat → Nat → Nat × Nat → Nat × Nat
  | 0, _, _, best => best
  | fuel + 1, exponent, below, best =>
    let half := pow2 exponent / 2
    if total ≤ half then best
    else
      let below := below + counts.getD exponent 0
      let best := if half < below then (pow2 exponent, below) else best
      bestReach counts total fuel (exponent + 1) below best

/-- The layout with a key in it for which there was no node: the reach is chosen anew, and there are
as many nodes as it takes. -/
def grown (isLive : Value → Bool) (key : Value) (l : Layout) : Layout :=
  let placed := (List.range l.reach).filter fun i => isLive (placeKey (i + 1))
  let filed := l.nodes.toList.filterMap fun key =>
    key.bind fun key => if isLive key then some key else none
  let candidates := placed.map (· + 1) ++ (key :: filed).filterMap candidate?
  let counts := candidates.foldl (fun counts n => counts.modify (ceilLog2 n) (· + 1))
    (Array.replicate 33 0)
  let (reach, taken) := bestReach counts candidates.length 32 0 0 (0, 0)
  let l := l.resized isLive reach (placed.length + filed.length + 1 - taken)
  if l.reaches key then l else (l.place? (fun _ => true) key).getD l

/-- The layout with a key that gets a value. -/
def file (isLive : Value → Bool) (key : Value) (l : Layout) : Layout :=
  if l.reaches key || l.nodes.contains (some key) then l
  else
    match l.place? isLive key with
    | some l => l
    | none => l.grown isLive key

/-- Looking a key up tells where the end may be: it has a place, and beyond the end found last. -/
def notices (l : Layout) : Value → Bool
  | .integer i => l.hint < i.toInt && i.toInt ≤ l.reach
  | _ => false

/-- The layout after a key was looked up. -/
def touched (key : Value) (l : Layout) : Layout :=
  if l.notices key then
    match key with
    | .integer i => { l with hint := i.toInt.toNat }
    | _ => l
  else l

/-! ## Ends -/

/-- A power of two, or zero. -/
def isPower (n : Nat) : Bool := n = 0 || pow2 n.log2 = n

/-- A present place with an absent one after it, between a present and an absent one. -/
def halve (isPresent : Nat → Bool) : Nat → Nat → Nat → Nat
  | 0, present, _ => present
  | fuel + 1, present, absent =>
    if absent ≤ present + 1 then present
    else
      let middle := (present + absent) / 2
      if isPresent middle then halve isPresent fuel middle absent
      else halve isPresent fuel present middle

/-- An end beyond a present place, sought in steps that double. -/
def seekBeyond (isPresent : Nat → Bool) : Nat → Nat → Nat
  | 0, present => present
  | fuel + 1, present =>
    let greatest := pow2 63 - 1
    let next := if present ≤ greatest / 2 then 2 * present else greatest
    if !isPresent next then halve isPresent 64 present next
    else if next = greatest then greatest
    else seekBeyond isPresent fuel next

/-- The end found among the keys beyond the places. -/
def endBeyond (isPresent : Nat → Bool) (l : Layout) : Nat :=
  if l.nodes.isEmpty || !isPresent (l.reach + 1) then l.reach
  else seekBeyond isPresent 64 (max l.reach 1)

/-- An end of the keys `1`, `2`, …: a present key with an absent one after it, or zero. It is
sought around the end found last, then in the places after that, then beyond them. -/
def measure (isPresent : Nat → Bool) (l : Layout) : Nat × Layout :=
  if 0 < l.hint && !isPresent l.hint then
    if 2 ≤ l.hint && isPresent (l.hint - 1) then
      let keeps := isPower l.reach && !isPower (l.hint - 1)
      (l.hint - 1, if keeps then { l with hint := l.hint - 1 } else l)
    else
      let border := halve isPresent 64 0 l.hint
      let keeps := isPower l.reach && l.reach / 2 < border
      (border, if keeps then { l with hint := border } else l)
  else if l.hint = l.reach then (l.endBeyond isPresent, l)
  else if !isPresent (l.hint + 1) then (l.hint, l)
  else if !isPresent l.reach then
    let border := halve isPresent 64 l.hint l.reach
    (border, { l with hint := border })
  else (l.endBeyond isPresent, l)

end Layout

end ScriptBridge
