import DiagramWeave.Yaml.Scalar
import DiagramWeave.Yaml.Scan

/-!
# From trees to values

A tree is turned into a value level by level: scalars at once, the items of a collection when all
collections nearer to the root have theirs. So of several faults the one nearest to the root is reported.
`Construct.check` finds that fault; `Construct.value` then builds the value.

A mapping takes over the entries of the mappings under its merge keys. They come before its own entries,
and its own win.
-/
namespace DiagramWeave.Yaml

namespace Construct

/-- The node itself, behind an alias. -/
def follow (document : Document) : Node → Node
  | .alias name => (document.named? name).getD (.scalar .null [])
  | node => node

/-- The tag of a node. -/
def tagOf (document : Document) (node : Node) : Tag :=
  match follow document node with
  | .scalar tag _ => tag
  | .sequence tag _ => tag
  | .mapping tag _ => tag
  | .alias _ => .unknown

/-- The content of a node that is taken as a scalar: its own, or that of a mapping's default value. -/
def content (document : Document) : Nat → Node → Except Fault (List Char)
  | 0, _ => .error .endless
  | steps + 1, node =>
    match follow document node with
    | .scalar _ text => .ok text
    | .mapping _ entries =>
      match entries.find? fun entry => tagOf document entry.1 = .default with
      | some (_, value) => content document steps value
      | none => .error .malformed
    | _ => .error .malformed

/-- A merge key. -/
def isMerge (document : Document) (entry : Node × Node) : Bool :=
  tagOf document entry.1 = .merge

/-- The name of an alias. -/
def aliasName? : Node → Option (List Char)
  | .alias name => some name
  | _ => none

/-- The entries of a mapping with those it takes over. `inside` names the mappings being merged; one that
    merges itself takes over nothing. -/
def entriesOf (document : Document) (inside : List (List Char)) :
    Nat → List (Node × Node) → Except Fault (List (Node × Node))
  | 0, _ => .error .malformed
  | steps + 1, entries => do
    let source (node : Node) : Except Fault (List (Node × Node)) :=
      match aliasName? node with
      | some name =>
        if inside.contains name then
          match follow document node with
          | .mapping _ _ => .ok []
          | _ => .error .malformed
        else match follow document node with
          | .mapping _ entries => entriesOf document (name :: inside) steps entries
          | _ => .error .malformed
      | none =>
        match node with
        | .mapping _ entries => entriesOf document inside steps entries
        | _ => .error .malformed
    let merged ← (entries.filter (isMerge document)).mapM fun entry =>
      match follow document entry.2 with
      | .sequence _ items => do
        let lists ← items.mapM source
        -- Of mappings merged together the first wins, and of entries the last, so the lists are turned round.
        return lists.reverse.flatten
      | _ => source entry.2
    return merged.flatten ++ entries.filter fun entry => !isMerge document entry

/-- The tag of a default value's key makes it text. -/
def keyTag (tag : Tag) : Tag :=
  if tag = .default then .text else tag

/-- The items of a collection that is a list of pairs: every item is a mapping with one entry. -/
def pairOf (document : Document) (item : Node) : Except Fault (Node × Node) :=
  match follow document item with
  | .mapping _ [entry] => .ok entry
  | _ => .error .malformed

/-- What has been met on the way. -/
structure Survey where
  /-- Collections whose items have not been looked at, the last met first. -/
  waiting : List Node
  /-- Aliases that have been followed. -/
  followed : List (List Char)

/-- Looks at nodes in turn; the first fault ends it. -/
abbrev Check := StateT Survey (Except Fault)

/-- A fault of a node itself. Collections are put off. -/
def meet (document : Document) (steps : Nat) (tag : Tag) (node : Node) : Check Unit := do
  -- A node behind an alias is looked at once, however often it is named.
  let known := (aliasName? node).any (← get).followed.contains
  if known then return ()
  match aliasName? node with
  | some name => modify fun survey => { survey with followed := name :: survey.followed }
  | none => pure ()
  if tag.isScalar then
    let text ← content document steps node
    let _ ← scalarValue tag text
  else
    match tag with
    | .sequence | .mapping | .set | .orderedMap | .pairs =>
      modify fun survey => { survey with waiting := follow document node :: survey.waiting }
    | _ => throw .malformed

/-- Looks at the key and the value of an entry. Collections cannot be keys. -/
def meetEntry (document : Document) (steps : Nat) (entry : Node × Node) : Check Unit := do
  let tag := keyTag (tagOf document entry.1)
  meet document steps tag entry.1
  if !tag.isScalar then throw .malformed
  meet document steps (tagOf document entry.2) entry.2

/-- Looks at the items of a collection. -/
def meetItems (document : Document) (steps : Nat) (node : Node) : Check Unit := do
  match tagOf document node, node with
  | .sequence, .sequence _ items =>
    items.forM fun item => meet document steps (tagOf document item) item
  | .orderedMap, .sequence _ items | .pairs, .sequence _ items =>
    items.forM fun item => do
      let (key, value) ← pairOf document item
      meet document steps (tagOf document key) key
      meet document steps (tagOf document value) value
  | .mapping, .mapping _ entries | .set, .mapping _ entries =>
    (← entriesOf document [] steps entries).forM (meetEntry document steps)
  | _, _ => throw .malformed

/-- Looks at all levels below those waiting. -/
def levels (document : Document) (steps : Nat) : Nat → Check Unit
  | 0 => return ()
  | depth + 1 => do
    let waiting := (← get).waiting.reverse
    if waiting.isEmpty then return ()
    modify fun survey => { survey with waiting := [] }
    waiting.forM (meetItems document steps)
    levels document steps depth

/-- The first fault of a document, from the root down. -/
def check (document : Document) (steps : Nat) : Except Fault Unit :=
  (do
    meet document steps (tagOf document document.root) document.root
    levels document steps steps : Check Unit).run' ⟨[], []⟩

/-- Two keys are one to a mapping: numbers by their value, truth values being zero and one. -/
def sameKey : Value → Value → Bool
  | .text a, .text b => a == b
  | .null, .null => true
  | .bytes a, .bytes b => a.toList == b.toList
  | a, b =>
    let number : Value → Option Float
      | .flag value => some (if value then 1.0 else 0.0)
      | .int value => some (Float.ofInt value)
      | .float value => some value
      | _ => none
    match a, b with
    | .int a, .int b => a == b
    | _, _ =>
      match number a, number b with
      | some a, some b => a == b
      | _, _ => false

/-- Gives a key a value: an old key keeps its place. -/
def setKey (key value : Value) : List (Value × Value) → List (Value × Value)
  | [] => [(key, value)]
  | (known, old) :: rest =>
    if sameKey known key then (known, value) :: rest else (known, old) :: setKey key value rest

/-- The value of a node. `inside` names the nodes around it, so that a collection that holds itself ends
    in a circle. -/
def value (document : Document) (inside : List (List Char)) (tag : Tag) :
    Nat → Node → Except Fault Value
  | 0, _ => .error .endless
  | steps + 1, node =>
    match aliasName? node with
    | some name =>
      if inside.contains name && !tag.isScalar then .ok .circle
      else
        match follow document node with
        | .alias _ => .error .malformed
        | target => value document (name :: inside) tag steps target
    | none =>
      if tag.isScalar then do
        let text ← content document steps node
        scalarValue tag text
      else
        match tag, node with
        | .sequence, .sequence _ items =>
          (items.mapM fun item => value document inside (tagOf document item) steps item).map .list
        | .orderedMap, .sequence _ items | .pairs, .sequence _ items =>
          .ok (.list (items.map fun _ => .group))
        | .set, .mapping _ _ => .ok .group
        | .mapping, .mapping _ entries => do
          let entries ← entriesOf document [] steps entries
          let pairs ← entries.mapM fun entry => do
            let key ← value document inside (keyTag (tagOf document entry.1)) steps entry.1
            let item ← value document inside (tagOf document entry.2) steps entry.2
            return (key, item)
          return .mapping (pairs.foldl (fun result pair => setKey pair.1 pair.2 result) [])
        | _, _ => .error .malformed

end Construct

/-- A character that a text may hold. -/
def isAllowed (c : Char) : Bool :=
  let code := c.toNat
  c == '\t' || c == '\n' || c == '\r' || (0x20 ≤ code && code ≤ 0x7e) || code == 0x85 ||
    (0xa0 ≤ code && code ≤ 0xd7ff) || (0xe000 ≤ code && code ≤ 0xfffd) || 0x10000 ≤ code

/-- The value of a YAML text with single line feeds as line ends. The empty text is null. -/
def read (text : List Char) : Except Fault Value := do
  if !text.all isAllowed then throw .malformed
  match ← documentOf (tokens text) with
  | none => return .null
  | some document =>
    let steps := (text.length + 2) * (document.named.length + 1)
    Construct.check document steps
    Construct.value document [] (Construct.tagOf document document.root) steps document.root

end DiagramWeave.Yaml
