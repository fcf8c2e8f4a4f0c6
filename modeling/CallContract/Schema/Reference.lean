import CallContract.Fault
import CallContract.Rule

/-!
# Types by their text

A type can be given by a text that names it, such as `int` or `dict[str, list[int]]`. The text is
read as an expression (`TypeText.read?`), which has to be well formed even if its names mean
nothing; `TypeText.rule` is the rule for the type that it stands for. Between two types the engine
chooses in a way of its own.
-/

namespace CallContract

/-- A type as it is written: a name, a constant, a tuple, a type with parameters in brackets, two
types between which a value may choose, or another expression, of which only the parts count. -/
inductive TypeText where
  | name (s : String)
  | nothing
  | constant
  | tuple (items : List TypeText)
  | applied (head : TypeText) (args : List TypeText)
  | either (a b : TypeText)
  | composed (parts : List TypeText)
  deriving Inhabited

namespace TypeText

/-- The smallest parts of a written type. -/
inductive Lexeme where
  | word (s : String)
  | constant
  | mark (c : Char)
  deriving DecidableEq, Repr, Inhabited

/-- Whether a character can stand in a name. -/
def isNameChar (c : Char) : Bool := c.isAlphanum || c == '_' || 128 ≤ c.toNat

/-- The parts of a text; nothing if a character is out of place. The measure bounds their number. -/
def lexemes? : Nat → List Char → Option (List Lexeme)
  | 0, _ => none
  | _, [] => some []
  | fuel + 1, c :: cs =>
    if c == ' ' || c == '\t' || c == '\n' then lexemes? fuel cs
    else if c == '#' then lexemes? fuel (cs.dropWhile (· ≠ '\n'))
    else if c.isDigit then
      if (cs.dropWhile fun d => d.isDigit || d == '_').head?.any isNameChar then none
      else (lexemes? fuel (cs.dropWhile fun d => d.isDigit || d == '_' || d == '.')).map
        (.constant :: ·)
    else if isNameChar c then
      (lexemes? fuel (cs.dropWhile isNameChar)).map
        (.word (String.ofList (c :: cs.takeWhile isNameChar)) :: ·)
    else if c == '"' || c == '\'' then
      match cs.dropWhile (· ≠ c) with
      | _ :: rest => (lexemes? fuel rest).map (.constant :: ·)
      | [] => none
    else match c, cs with
      | '.', '.' :: '.' :: rest => (lexemes? fuel rest).map (.constant :: ·)
      | c, cs =>
        if "[](),|.+-*/%&^<>@=~".toList.contains c then (lexemes? fuel cs).map (.mark c :: ·)
        else none

/-- Words that are no names. -/
def reserved : List String :=
  ["and", "as", "assert", "async", "await", "break", "class", "continue", "def", "del", "elif",
    "else", "except", "finally", "for", "from", "global", "if", "import", "in", "is", "lambda",
    "nonlocal", "not", "or", "pass", "raise", "return", "try", "while", "with", "yield"]

/-- Words and marks that join two expressions. -/
def joins : Lexeme → Bool
  | .word s => ["and", "or", "is", "in"].contains s
  | .mark c => "|+-*/%&^<>@".toList.contains c
  | .constant => false

mutual

/-- An expression: operands with something between them. -/
def expression? : Nat → List Lexeme → Option (TypeText × List Lexeme)
  | 0, _ => none
  | fuel + 1, ls => do
    let (first, rest) ← operand? fuel ls
    joined? fuel first rest

/-- The rest of an expression after its first part. -/
def joined? : Nat → TypeText → List Lexeme → Option (TypeText × List Lexeme)
  | 0, _, _ => none
  | _, first, [] => some (first, [])
  | fuel + 1, first, l :: ls =>
    if joins l then do
      let (second, rest) ← operand? fuel ls
      joined? fuel (if l = .mark '|' then .either first second else .composed [first, second]) rest
    else some (first, l :: ls)

/-- An operand: a name, a constant or an expression in brackets, with what follows it directly. -/
def operand? : Nat → List Lexeme → Option (TypeText × List Lexeme)
  | 0, _ => none
  | _, [] => none
  | fuel + 1, l :: ls =>
    match l with
    | .constant => trailed? fuel .constant ls
    | .word "None" => trailed? fuel .nothing ls
    | .word "True" => trailed? fuel .constant ls
    | .word "False" => trailed? fuel .constant ls
    | .word "not" => (operand? fuel ls).map fun (e, rest) => (.composed [e], rest)
    | .word s => if reserved.contains s then none else trailed? fuel (.name s) ls
    | .mark '-' => (operand? fuel ls).map fun (e, rest) => (.composed [e], rest)
    | .mark '+' => (operand? fuel ls).map fun (e, rest) => (.composed [e], rest)
    | .mark '~' => (operand? fuel ls).map fun (e, rest) => (.composed [e], rest)
    | .mark '(' => do
      let (items, lone, rest) ← items? fuel ')' ls
      match items, lone with
      | [e], true => trailed? fuel e rest
      | es, _ => trailed? fuel (.tuple es) rest
    | .mark '[' => do
      let (items, _, rest) ← items? fuel ']' ls
      trailed? fuel (.composed items) rest
    | .mark _ => none

/-- What follows an operand directly: parameters, arguments or a part of it. -/
def trailed? : Nat → TypeText → List Lexeme → Option (TypeText × List Lexeme)
  | 0, _, _ => none
  | fuel + 1, e, ls =>
    match ls with
    | .mark '[' :: ls => do
      let (args, lone, rest) ← items? fuel ']' ls
      match args, lone with
      | [], _ => none
      | [.tuple items], true => trailed? fuel (.applied e items) rest
      | args, _ => trailed? fuel (.applied e args) rest
    | .mark '(' :: ls => do
      let (args, _, rest) ← items? fuel ')' ls
      trailed? fuel (.composed (e :: args)) rest
    | .mark '.' :: .word _ :: ls => trailed? fuel (.composed [e]) ls
    | ls => some (e, ls)

/-- Expressions with commas between them up to a closing mark, and whether there is no comma. -/
def items? : Nat → Char → List Lexeme → Option (List TypeText × Bool × List Lexeme)
  | 0, _, _ => none
  | fuel + 1, close, ls =>
    match ls with
    | [] => none
    | .mark c :: rest =>
      if c = close then some ([], true, rest) else itemsFrom? fuel close (.mark c :: rest)
    | ls => itemsFrom? fuel close ls

/-- At least one expression up to a closing mark, and whether there is no comma. -/
def itemsFrom? : Nat → Char → List Lexeme → Option (List TypeText × Bool × List Lexeme)
  | 0, _, _ => none
  | fuel + 1, close, ls => do
    let (e, rest) ← expression? fuel ls
    match rest with
    | .mark ',' :: rest => do
      let (es, _, rest) ← items? fuel close rest
      return (e :: es, false, rest)
    | .mark c :: rest => if c = close then return ([e], true, rest) else none
    | _ => none

end

/-- The expression that a text holds, alone or with commas; nothing if it is not well formed. Blanks
cannot stand in front. -/
def read? (s : String) : Option TypeText :=
  if s.toList.head? = some ' ' ∨ s.toList.head? = some '\t' then none
  else do
    let ls ← lexemes? (s.length + 1) s.toList
    let (items, lone, rest) ← itemsFrom? (8 * ls.length + 16) ')' (ls ++ [.mark ')'])
    if !rest.isEmpty then none
    else match items, lone with
      | [e], true => some e
      | es, _ => some (.tuple es)

/-- Names of things that are no types to check by. -/
def unfitNames : List String :=
  ["schema", "Schema", "ValidationError", "annotations", "Ellipsis", "NotImplemented",
    "bytearray", "range", "slice", "memoryview", "property", "super", "staticmethod",
    "classmethod", "enumerate", "zip", "map", "filter", "reversed", "BaseException", "Exception",
    "ValueError", "TypeError", "KeyError", "IndexError", "RuntimeError", "OSError", "abs", "all",
    "any", "ascii", "bin", "breakpoint", "callable", "chr", "compile", "delattr", "dir", "divmod",
    "eval", "exec", "format", "getattr", "globals", "hasattr", "hash", "hex", "id", "input",
    "isinstance", "issubclass", "iter", "len", "locals", "max", "min", "next", "oct", "open",
    "ord", "pow", "print", "repr", "round", "setattr", "sorted", "sum", "vars"]

/-- The rule for a name. -/
def ruleOfName : String → Except Fault Rule
  | "int" => .ok BaseType.int.rule
  | "float" => .ok BaseType.float.rule
  | "str" => .ok BaseType.text.rule
  | "bool" => .ok BaseType.bool.rule
  | "bytes" => .ok BaseType.bytes.rule
  | "object" => .ok BaseType.object.rule
  | "list" => .ok BaseType.list.rule
  | "dict" => .ok BaseType.dict.rule
  | "tuple" => .ok BaseType.tuple.rule
  | "set" => .ok BaseType.set.rule
  | "frozenset" => .ok BaseType.frozenset.rule
  | "Any" => .ok .any
  | "List" => .ok BaseType.list.rule
  | "Dict" => .ok BaseType.dict.rule
  | "Optional" => .error .wrongType
  | s => if unfitNames.contains s then .error .noRule else .error .unknownName

/-- The rule for a type with parameters. -/
def ruleOfApplied (head : String) (args : List Rule) (variadic : Bool) : Except Fault Rule :=
  match head, args with
  | "list", r :: _ => .ok (.list r none none)
  | "List", [r] => .ok (.list r none none)
  | "set", r :: _ => .ok (.set r)
  | "frozenset", r :: _ => .ok (.frozenset r)
  | "dict", k :: v :: _ => .ok (.dict k v)
  | "Dict", [k, v] => .ok (.dict k v)
  | "Optional", [r] => .ok (.optional r)
  | "tuple", rs =>
    match rs, variadic with
    | [r], true => .ok (.variadic r)
    | rs, _ => .ok (.fixed rs)
  | _, _ => .error .wrongType

/-- Whether the parameters of a type end in dots, which stand for any number of the type before. -/
def endsInDots (args : List TypeText) : Bool :=
  match args with
  | [_, .constant] => true
  | _ => false

mutual

/-- An expression for a type as a text. The only constant in it are dots. -/
def text : TypeText → String
  | .name s => s
  | .nothing => "None"
  | .constant => "..."
  | .tuple items => commas (texts items)
  | .applied head args => head.text ++ "[" ++ commas (texts args) ++ "]"
  | .either a b => a.text ++ " | " ++ b.text
  | .composed parts => commas (texts parts)

/-- Expressions for types as texts. -/
def texts : List TypeText → List String
  | [] => []
  | t :: ts => t.text :: texts ts

end

mutual

/-- The rule for the type that an expression stands for. -/
def rule : TypeText → Except Fault Rule
  | .name s => ruleOfName s
  | .nothing => .ok .null
  | .constant => .error .noRule
  | .tuple items => do
    let _ ← rulesOf items
    throw .noRule
  | .applied head args => do
    match head with
    | .name s =>
      if s ≠ "Optional" then
        let _ ← ruleOfName s
      let given := if endsInDots args then args.length - 1 else args.length
      let rs ← rulesUpTo given args
      ruleOfApplied s rs (endsInDots args)
    | _ => throw .wrongType
  | .either a b => do
    let r ← a.rule
    let t ← b.rule
    match r, t with
    | .null, .null => return .null
    | .null, t => return .optional t
    | r, .null => return .optional r
    | _, _ => return .own (.text (a.text ++ " | " ++ b.text))
  | .composed parts => do
    let _ ← rulesOf parts
    throw .wrongType

/-- The rules for the expressions of a list. -/
def rulesOf : List TypeText → Except Fault (List Rule)
  | [] => .ok []
  | t :: ts => do
    let r ← t.rule
    return r :: (← rulesOf ts)

/-- The rules for so many expressions of a list. -/
def rulesUpTo : Nat → List TypeText → Except Fault (List Rule)
  | 0, _ => .ok []
  | _, [] => .ok []
  | n + 1, t :: ts => do
    let r ← t.rule
    return r :: (← rulesUpTo n ts)

end

/-- Refuse a text that is not well formed. -/
def check (s : String) : Except Fault Unit :=
  if (read? s).isSome then .ok () else .error .malformedName

/-- The rule for the type that a text stands for. -/
def ruleOfText (s : String) : Except Fault Rule :=
  match read? s with
  | some t => t.rule
  | none => .error .malformedName

end TypeText

end CallContract
