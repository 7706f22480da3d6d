import DiagramWeave.Yaml.Resolve
import DiagramWeave.Yaml.Token

/-!
# YAML trees

Tokens are read as a tree of scalars, sequences and mappings. A node may be named by an anchor and stand
in other places by that name; a name is given once, and before it is used, though it may be used inside
the node that it names. A text holds one document at most.
-/
namespace DiagramWeave.Yaml

inductive Node where
  | scalar (tag : Tag) (content : List Char)
  | sequence (tag : Tag) (items : List Node)
  | mapping (tag : Tag) (entries : List (Node × Node))
  /-- The node of that name. -/
  | alias (name : List Char)
  deriving Inhabited

/-- A document: its tree, and the nodes that have names. -/
structure Document where
  root : Node
  named : List (List Char × Node)

/-- The node of a name. -/
def Document.named? (document : Document) (name : List Char) : Option Node :=
  document.named.lookup name

namespace Parse

/-- What the reading of a tree goes by. -/
structure State where
  tokens : List Token
  /-- What tag handles stand for. -/
  handles : List (List Char × List Char)
  /-- The names given so far. -/
  names : List (List Char)
  /-- The nodes that have names. -/
  named : List (List Char × Node)

/-- Reading a tree. -/
abbrev Reader := StateT State (Except Fault)

/-- The next token. Where the text could not be cut, the reading fails for that reason. -/
def peek : Reader (Option Token) := do
  match (← get).tokens.head? with
  | some (.fault fault) => throw fault
  | other => return other

/-- Passes the next token. -/
def pass : Reader Unit :=
  modify fun state => { state with tokens := state.tokens.tail }

/-- The next token is in the class. -/
def sees (wanted : Token → Bool) : Reader Bool := do
  return (← peek).any wanted

/-- Passes the next token if it is in the class. -/
def passIf (wanted : Token → Bool) : Reader Bool := do
  if ← sees wanted then
    pass
    return true
  else return false

/-! ## Classes of tokens -/

def isBlockEntry : Token → Bool
  | .blockEntry => true
  | _ => false

def isBlockEnd : Token → Bool
  | .blockEnd => true
  | _ => false

def isKey : Token → Bool
  | .key => true
  | _ => false

def isValue : Token → Bool
  | .value => true
  | _ => false

def isFlowEntry : Token → Bool
  | .flowEntry => true
  | _ => false

def isFlowSequenceEnd : Token → Bool
  | .flowSequenceEnd => true
  | _ => false

def isFlowMappingEnd : Token → Bool
  | .flowMappingEnd => true
  | _ => false

def isDocumentStart : Token → Bool
  | .documentStart => true
  | _ => false

def isDocumentEnd : Token → Bool
  | .documentEnd => true
  | _ => false

def isDirective : Token → Bool
  | .version _ => true
  | .tagHandle _ _ => true
  | .unknownDirective => true
  | _ => false

/-! ## Properties of nodes -/

/-- What may stand before a node. -/
structure Properties where
  anchor : Option (List Char)
  tag : Option RawTag

/-- The anchor here, if there is one. -/
def anchor? : Reader (Option (List Char)) := do
  match ← peek with
  | some (.anchor name) =>
    pass
    return some name
  | _ => return none

/-- The tag here, if there is one. -/
def tag? : Reader (Option RawTag) := do
  match ← peek with
  | some (.tag tag) =>
    pass
    return some tag
  | _ => return none

/-- Anchor and tag, in either order. -/
def properties : Reader Properties := do
  match ← anchor? with
  | some name => return ⟨some name, ← tag?⟩
  | none =>
    match ← tag? with
    | some tag => return ⟨← anchor?, some tag⟩
    | none => return ⟨none, none⟩

/-- The full name of a tag; its handle must have a meaning. -/
def fullTag (raw : RawTag) : Reader (List Char) := do
  match raw.handle with
  | none => return raw.suffix
  | some handle =>
    match (← get).handles.lookup handle with
    | some expansion => return expansion ++ raw.suffix
    | none => throw .malformed

/-- The tag of a node. A lone exclamation mark leaves the choice to the node, like no tag at all. -/
inductive TagChoice where
  | absent
  | free
  | fixed (tag : Tag)

/-- The tag that the properties ask for. -/
def tagChoice (properties : Properties) : Reader TagChoice := do
  match properties.tag with
  | none => return .absent
  | some raw =>
    let name ← fullTag raw
    return if name = ['!'] then .free else .fixed (Tag.ofName name)

/-- Notes that a name is given; no name is given twice. -/
def declare (anchor : Option (List Char)) : Reader Unit := do
  match anchor with
  | none => return ()
  | some name =>
    if (← get).names.contains name then throw .malformed
    else modify fun state => { state with names := name :: state.names }

/-- Notes the node of a name. -/
def record (anchor : Option (List Char)) (node : Node) : Reader Node := do
  match anchor with
  | none => return node
  | some name =>
    modify fun state => { state with named := (name, node) :: state.named }
    return node

/-- The tag of a collection. -/
def TagChoice.orElse (choice : TagChoice) (tag : Tag) : Tag :=
  match choice with
  | .fixed chosen => chosen
  | _ => tag

/-- The tag of a scalar. -/
def TagChoice.ofScalar (choice : TagChoice) (content : List Char) (plain : Bool) : Tag :=
  match choice with
  | .fixed chosen => chosen
  | .free => resolve content
  | .absent => if plain then resolve content else .text

/-- What stands where nothing stands. -/
def emptyScalar : Node :=
  .scalar .null []

/-! ## Nodes -/

mutual

/-- A node. Block collections may be read only where `block` says so, and sequences without indentation
    only where `indentless` says so. -/
def node (block indentless : Bool) : Nat → Reader Node
  | 0 => throw .malformed
  | steps + 1 => do
    match ← peek with
    | some (.alias name) =>
      pass
      if (← get).names.contains name then return .alias name else throw .malformed
    | _ =>
      let properties ← properties
      let choice ← tagChoice properties
      let anchor := properties.anchor
      match ← peek with
      | some (.scalar content plain) =>
        declare anchor
        pass
        record anchor (.scalar (choice.ofScalar content plain) content)
      | some .flowSequenceStart =>
        declare anchor
        pass
        record anchor (.sequence (choice.orElse .sequence) (← flowItems true steps))
      | some .flowMappingStart =>
        declare anchor
        pass
        record anchor (.mapping (choice.orElse .mapping) (← flowEntries true steps))
      | next =>
        if indentless && next.any isBlockEntry then
          declare anchor
          record anchor (.sequence (choice.orElse .sequence) (← indentlessItems steps))
        else
          match block, next with
          | true, some .blockSequenceStart =>
            declare anchor
            pass
            record anchor (.sequence (choice.orElse .sequence) (← blockItems steps))
          | true, some .blockMappingStart =>
            declare anchor
            pass
            record anchor (.mapping (choice.orElse .mapping) (← blockEntries steps))
          | _, _ =>
            if properties.anchor.isSome || properties.tag.isSome then
              declare anchor
              record anchor (.scalar (choice.ofScalar [] true) [])
            else throw .malformed

/-- The items of a block sequence up to its end. -/
def blockItems : Nat → Reader (List Node)
  | 0 => throw .malformed
  | steps + 1 => do
    if ← passIf isBlockEntry then
      let absent ← sees fun token => isBlockEntry token || isBlockEnd token
      let item ← if absent then pure emptyScalar else node true false steps
      return item :: (← blockItems steps)
    else if ← passIf isBlockEnd then return []
    else throw .malformed

/-- The items of a block sequence that is not indented. -/
def indentlessItems : Nat → Reader (List Node)
  | 0 => throw .malformed
  | steps + 1 => do
    if ← passIf isBlockEntry then
      let absent ← sees fun token =>
        isBlockEntry token || isKey token || isValue token || isBlockEnd token
      let item ← if absent then pure emptyScalar else node true false steps
      return item :: (← indentlessItems steps)
    else return []

/-- A key or value of a block mapping, or nothing. -/
def blockPart : Nat → Reader Node
  | 0 => throw .malformed
  | steps + 1 => do
    if ← sees fun token => isKey token || isValue token || isBlockEnd token then return emptyScalar
    else node true true steps

/-- The entries of a block mapping up to its end. -/
def blockEntries : Nat → Reader (List (Node × Node))
  | 0 => throw .malformed
  | steps + 1 => do
    if ← passIf isKey then
      let key ← blockPart steps
      let value ← if ← passIf isValue then blockPart steps else pure emptyScalar
      return (key, value) :: (← blockEntries steps)
    else if ← passIf isBlockEnd then return []
    else throw .malformed

/-- The items of a flow sequence up to its end. A key with its value is an item of its own. -/
def flowItems (first : Bool) : Nat → Reader (List Node)
  | 0 => throw .malformed
  | steps + 1 => do
    if ← passIf isFlowSequenceEnd then return []
    else
      if !first then
        if !(← passIf isFlowEntry) then throw .malformed
      if ← passIf isKey then
        let keyAbsent ← sees fun token =>
          isValue token || isFlowEntry token || isFlowSequenceEnd token
        let key ← if keyAbsent then pure emptyScalar else node false false steps
        let value ←
          if ← passIf isValue then
            let absent ← sees fun token => isFlowEntry token || isFlowSequenceEnd token
            if absent then pure emptyScalar else node false false steps
          else pure emptyScalar
        return .mapping .mapping [(key, value)] :: (← flowItems false steps)
      else if ← passIf isFlowSequenceEnd then return []
      else
        let item ← node false false steps
        return item :: (← flowItems false steps)

/-- The entries of a flow mapping up to its end. -/
def flowEntries (first : Bool) : Nat → Reader (List (Node × Node))
  | 0 => throw .malformed
  | steps + 1 => do
    if ← passIf isFlowMappingEnd then return []
    else
      if !first then
        if !(← passIf isFlowEntry) then throw .malformed
      if ← passIf isKey then
        let keyAbsent ← sees fun token =>
          isValue token || isFlowEntry token || isFlowMappingEnd token
        let key ← if keyAbsent then pure emptyScalar else node false false steps
        let value ←
          if ← passIf isValue then
            let absent ← sees fun token => isFlowEntry token || isFlowMappingEnd token
            if absent then pure emptyScalar else node false false steps
          else pure emptyScalar
        return (key, value) :: (← flowEntries false steps)
      else if ← passIf isFlowMappingEnd then return []
      else
        let key ← node false false steps
        return (key, emptyScalar) :: (← flowEntries false steps)

end

/-! ## Documents -/

/-- The handles that have a meaning without a directive. -/
def usualHandles : List (List Char × List Char) :=
  [(['!'], ['!']), (['!', '!'], "tag:yaml.org,2002:".toList)]

/-- The directives before a document, `versioned` telling whether the version was among them. -/
def directives (versioned : Bool) (handles : List (List Char × List Char)) :
    Nat → Reader (List (List Char × List Char))
  | 0 => return handles
  | steps + 1 => do
    match ← peek with
    | some (.version major) =>
      pass
      if versioned || major != 1 then throw .malformed
      directives true handles steps
    | some (.tagHandle handle expansion) =>
      pass
      if (handles.lookup handle).isSome then throw .malformed
      directives versioned ((handle, expansion) :: handles) steps
    | some .unknownDirective =>
      pass
      directives versioned handles steps
    | _ => return handles

/-- Passes the marks behind a document. -/
def passDocumentEnds : Nat → Reader Unit
  | 0 => return ()
  | steps + 1 => do
    if ← passIf isDocumentEnd then passDocumentEnds steps

/-- The tree of the document of the text, if there is one. `steps` bounds the depth and length of what is
    read. -/
def document (steps : Nat) : Reader (Option Node) := do
  match ← peek with
  | none => return none
  | some token =>
    let root ←
      if isDirective token || isDocumentStart token then do
        let handles ← directives false [] steps
        if !(← passIf isDocumentStart) then throw .malformed
        modify fun state => { state with handles := handles ++ usualHandles }
        match ← peek with
        | none => pure emptyScalar
        | some token =>
          if isDirective token || isDocumentStart token || isDocumentEnd token then pure emptyScalar
          else node true false steps
      else node true false steps
    passDocumentEnds steps
    match ← peek with
    | none => return some root
    | some _ => throw .malformed

end Parse

/-- The document of tokens, if they hold one. -/
def documentOf (tokens : List Token) : Except Fault (Option Document) := do
  let start : Parse.State := ⟨tokens, Parse.usualHandles, [], []⟩
  let (root, state) ← (Parse.document (3 * tokens.length + 3)).run start
  return root.map fun root => ⟨root, state.named⟩

end DiagramWeave.Yaml
