import Crontab.Config.Yaml.Tokens

/-!
# YAML documents

A document is one node.  Its tokens say how it is made up: the items of a list and the fields of a
table stand in blocks, or between brackets.

* `node?` : the node at the beginning of some tokens.
* `Document.root?` : the node of the one document that some tokens hold.
* `Document.read?` : the fields of a text with one document, whose node is a table.
-/

set_option autoImplicit false

namespace Crontab.Yaml

/-! ## Names and tags -/

/-- What is left of a document while it is read: its tokens, and the nodes with a name so far, the
last one first.  A node that is not complete yet is missing. -/
structure Rest where
  tokens : List Token
  anchors : List (String × Option Node)

/-- What stands before a node: a name to refer to it by, and a tag. -/
structure Marks where
  anchor : Option String
  tag : Option Tag
deriving DecidableEq, Repr

namespace Marks

/-- Nothing stands before a node. -/
def none : Marks := ⟨.none, .none⟩

/-- The node of a text without quotes. -/
def plain (m : Marks) (s : List Char) : Node :=
  match m.tag with
  | some tag => .scalar (.ofTagged tag s)
  | .none => .scalar (.ofPlain s)

end Marks

namespace Rest

/-- The same document further on. -/
def goTo (s : Rest) (ts : List Token) : Rest := { s with tokens := ts }

/-- Reads what stands before a node, in either order.  A tag is read under a rule. -/
def marks? (rule : Option TagRule) (s : Rest) : Option (Marks × Rest) :=
  match s.tokens with
  | .anchor name :: .tag t :: ts =>
    (Tag.resolve? rule t).map fun tag => (⟨some name, some tag⟩, s.goTo ts)
  | .tag t :: .anchor name :: ts =>
    (Tag.resolve? rule t).map fun tag => (⟨some name, some tag⟩, s.goTo ts)
  | .anchor name :: ts => some (⟨some name, none⟩, s.goTo ts)
  | .tag t :: ts => (Tag.resolve? rule t).map fun tag => (⟨none, some tag⟩, s.goTo ts)
  | _ => some (.none, s)

/-- Opens a node that may have a name. -/
def openNode (s : Rest) (m : Marks) : Rest :=
  match m.anchor with
  | some name => { s with anchors := (name, none) :: s.anchors }
  | none => s

/-- Closes the node that was opened when `before` names were known. -/
def closeNode (s : Rest) (m : Marks) (before : Nat) (n : Node) : Rest :=
  match m.anchor with
  | some name =>
    { s with anchors := s.anchors.set (s.anchors.length - 1 - before) (name, some n) }
  | none => s

end Rest

/-! ## Nodes -/

/-- Whether the value of a field is left out before the tokens at hand. -/
def endsField : List Token → Bool
  | .key :: _ | .colon :: _ | .endBlock :: _ => true
  | _ => false

/-- Whether an item of a list is left out before the tokens at hand.  `isFlush` says that the list
stands at the column of the table around it. -/
def endsItem (isFlush : Bool) : List Token → Bool
  | .dash :: _ | .endBlock :: _ => true
  | .key :: _ | .colon :: _ => isFlush
  | _ => false

/-- Whether the value of a field between brackets is left out before the tokens at hand. -/
def endsFlowField : List Token → Bool
  | .comma :: _ | .closeTable :: _ => true
  | _ => false

/-- Whether the value of a lone field in a list between brackets is left out before the tokens at
hand. -/
def endsFlowPair : List Token → Bool
  | .comma :: _ | .closeList :: _ => true
  | _ => false

/-- The tokens of the next item or field between brackets; all but the first follow a comma. -/
def afterComma? (isFirst : Bool) : List Token → Option (List Token)
  | .comma :: ts => if isFirst then some (.comma :: ts) else some ts
  | ts => if isFirst then some ts else none

mutual

/-- Reads a node.  `isBlock` says that it may be a block, and `isFlush` that it may be a list at the
column of the table around it. -/
def node? (rule : Option TagRule) : (fuel : Nat) → (isBlock isFlush : Bool) → Rest →
    Option (Node × Rest)
  | 0, _, _, _ => none
  | fuel + 1, isBlock, isFlush, s =>
    match s.tokens with
    | .alias name :: ts =>
      (s.anchors.lookup name).map fun n? => (n?.getD (.scalar .misfit), s.goTo ts)
    | _ =>
      match s.marks? rule with
      | none => none
      | some (m, s) =>
        let before := s.anchors.length
        (content? rule fuel isBlock isFlush m (s.openNode m)).map fun q =>
          (q.1, q.2.closeNode m before q.1)

/-- Reads a node after what stands before it. -/
def content? (rule : Option TagRule) : (fuel : Nat) → (isBlock isFlush : Bool) → Marks → Rest →
    Option (Node × Rest)
  | 0, _, _, _, _ => none
  | fuel + 1, isBlock, isFlush, m, s =>
    match s.tokens with
    | .plain w :: ts => some (m.plain w, s.goTo ts)
    | .quoted w :: ts => some (.scalar (.str (String.ofList w)), s.goTo ts)
    | .openList :: ts => flowItems? rule fuel true [] (s.goTo ts)
    | .openTable :: ts => flowFields? rule fuel true [] (s.goTo ts)
    | .beginItems :: ts =>
      if isBlock then items? rule fuel false [] (s.goTo ts) else absent? m s
    | .beginFields :: ts => if isBlock then fields? rule fuel [] (s.goTo ts) else absent? m s
    | .dash :: _ => if isFlush then items? rule fuel true [] s else absent? m s
    | _ => absent? m s

/-- The node where nothing is written but a name or a tag. -/
def absent? (m : Marks) (s : Rest) : Option (Node × Rest) :=
  if m = .none then none else some (m.plain [], s)

/-- Reads the items of a list. -/
def items? (rule : Option TagRule) : (fuel : Nat) → (isFlush : Bool) → (acc : List Node) → Rest →
    Option (Node × Rest)
  | 0, _, _, _ => none
  | fuel + 1, isFlush, acc, s =>
    match s.tokens with
    | .dash :: ts =>
      if endsItem isFlush ts then items? rule fuel isFlush (.nil :: acc) (s.goTo ts)
      else
        match node? rule fuel true false (s.goTo ts) with
        | some (n, s) => items? rule fuel isFlush (n :: acc) s
        | none => none
    | .endBlock :: ts => some (.list acc.reverse, if isFlush then s else s.goTo ts)
    | _ => if isFlush then some (.list acc.reverse, s) else none

/-- Reads the fields of a table. -/
def fields? (rule : Option TagRule) : (fuel : Nat) → (acc : List Node) → Rest →
    Option (Node × Rest)
  | 0, _, _ => none
  | fuel + 1, acc, s =>
    match s.tokens with
    | .key :: ts =>
      if endsField ts then fieldValue? rule fuel (.nil :: acc) (s.goTo ts)
      else
        match node? rule fuel true true (s.goTo ts) with
        | some (k, s) => fieldValue? rule fuel (k :: acc) s
        | none => none
    | .colon :: _ => fieldValue? rule fuel (.nil :: acc) s
    | .endBlock :: ts => (Node.tableOf? acc.reverse).map fun n => (n, s.goTo ts)
    | _ => none

/-- Reads the value of a field, and the fields after it. -/
def fieldValue? (rule : Option TagRule) : (fuel : Nat) → (acc : List Node) → Rest →
    Option (Node × Rest)
  | 0, _, _ => none
  | fuel + 1, acc, s =>
    match s.tokens with
    | .colon :: ts =>
      if endsField ts then fields? rule fuel (.nil :: acc) (s.goTo ts)
      else
        match node? rule fuel true true (s.goTo ts) with
        | some (v, s) => fields? rule fuel (v :: acc) s
        | none => none
    | _ => fields? rule fuel (.nil :: acc) s

/-- Reads the items of a list between brackets; a comma may follow the last one.  A key with its value
is a table. -/
def flowItems? (rule : Option TagRule) : (fuel : Nat) → (isFirst : Bool) → (acc : List Node) →
    Rest → Option (Node × Rest)
  | 0, _, _, _ => none
  | fuel + 1, isFirst, acc, s =>
    match s.tokens with
    | .closeList :: ts => some (.list acc.reverse, s.goTo ts)
    | ts =>
      match afterComma? isFirst ts with
      | none => none
      | some (.closeList :: ts) => some (.list acc.reverse, s.goTo ts)
      | some (.key :: ts) =>
        match flowPair? rule fuel (s.goTo ts) with
        | some (n, s) => flowItems? rule fuel false (n :: acc) s
        | none => none
      | some ts =>
        match node? rule fuel false false (s.goTo ts) with
        | some (n, s) => flowItems? rule fuel false (n :: acc) s
        | none => none

/-- Reads a key and its value in a list between brackets. -/
def flowPair? (rule : Option TagRule) : (fuel : Nat) → Rest → Option (Node × Rest)
  | 0, _ => none
  | fuel + 1, s =>
    match node? rule fuel false false s with
    | none => none
    | some (k, s) =>
      match s.tokens with
      | .colon :: ts =>
        if endsFlowPair ts then (Node.tableOf? [k, .nil]).map fun n => (n, s.goTo ts)
        else
          match node? rule fuel false false (s.goTo ts) with
          | some (v, s) => (Node.tableOf? [k, v]).map fun n => (n, s)
          | none => none
      | _ => (Node.tableOf? [k, .nil]).map fun n => (n, s)

/-- Reads the fields of a table between brackets; a comma may follow the last one. -/
def flowFields? (rule : Option TagRule) : (fuel : Nat) → (isFirst : Bool) → (acc : List Node) →
    Rest → Option (Node × Rest)
  | 0, _, _, _ => none
  | fuel + 1, isFirst, acc, s =>
    match s.tokens with
    | .closeTable :: ts => (Node.tableOf? acc.reverse).map fun n => (n, s.goTo ts)
    | ts =>
      match afterComma? isFirst ts with
      | none => none
      | some (.closeTable :: ts) => (Node.tableOf? acc.reverse).map fun n => (n, s.goTo ts)
      | some (.colon :: ts) => flowValue? rule fuel (.nil :: acc) (s.goTo (.colon :: ts))
      | some (.key :: ts) =>
        if endsFlowField ts || ts.head? == some Token.colon then
          flowValue? rule fuel (.nil :: acc) (s.goTo ts)
        else
          match node? rule fuel false false (s.goTo ts) with
          | some (k, s) => flowValue? rule fuel (k :: acc) s
          | none => none
      | some ts =>
        match node? rule fuel false false (s.goTo ts) with
        | some (k, s) => flowFields? rule fuel false (.nil :: k :: acc) s
        | none => none

/-- Reads the value of a field between brackets, and the fields after it. -/
def flowValue? (rule : Option TagRule) : (fuel : Nat) → (acc : List Node) → Rest →
    Option (Node × Rest)
  | 0, _, _ => none
  | fuel + 1, acc, s =>
    match s.tokens with
    | .colon :: ts =>
      if endsFlowField ts then flowFields? rule fuel false (.nil :: acc) (s.goTo ts)
      else
        match node? rule fuel false false (s.goTo ts) with
        | some (v, s) => flowFields? rule fuel false (v :: acc) s
        | none => none
    | _ => flowFields? rule fuel false (.nil :: acc) s

end

/-! ## Documents -/

namespace Document

/-- Reads the lines before a document up to the mark where it begins.  The version stands there once at
most, and of the rules for tags only one on the last of these lines counts. -/
def opening? (hasVersion : Bool) (rule : Option TagRule) :
    List Token → Option (Option TagRule × List Token)
  | .directive .version :: ts => if hasVersion then none else opening? true none ts
  | .directive (.rule r) :: ts => opening? hasVersion (some r) ts
  | .directive .other :: ts => opening? hasVersion none ts
  | .beginDocument :: ts => some (rule, ts)
  | _ => none

/-- The node of the one document that some tokens hold.  Nothing, if they hold something else; no node
if there is no document. -/
def root? (ts : List Token) : Option (Option Node) :=
  let ts := ts.dropWhile (· == Token.endDocument)
  let opened? := match ts with
    | .directive _ :: _ | .beginDocument :: _ => opening? false none ts
    | _ => some (none, ts)
  match ts, opened? with
  | [], _ => some none
  | _, none => none
  | _, some (rule, ts) =>
    match node? rule (4 * ts.length + 8) true false ⟨ts, []⟩ with
    | some (n, s) => if s.tokens.all (· == Token.endDocument) then some (some n) else none
    | none => none

/-- Reads a text.  Without a document there are no fields. -/
def read? (s : List Char) : Option (List (String × Value)) :=
  match tokens? (unifyBreaks s) with
  | none => none
  | some ts =>
    match root? ts with
    | some none => some []
    | some (some (.table parts)) => Node.fieldValues? [] parts
    | _ => none
where
  /-- The text up to its end mark, where every line ends in the same way. -/
  unifyBreaks : List Char → List Char
    | [] => []
    | '\r' :: '\n' :: r => '\n' :: unifyBreaks r
    | '\r' :: r => '\n' :: unifyBreaks r
    | c :: r => if c = '\x00' then [] else c :: unifyBreaks r

end Document

end Crontab.Yaml
