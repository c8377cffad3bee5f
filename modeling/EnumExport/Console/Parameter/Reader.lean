import EnumExport.Console.Parameter.Token

namespace EnumExport

namespace Parameter

inductive SyntaxError where
  | token (error : TokenError)
  | neverClosed (opening : Char)
  | invalid
  | commaExpected
  | equalsInstead
  | assignedLiteral
  | assignedArgument
  | elseExpected
  | starred
  | doubleStarred
  | callExpected (name : List Char)
  | colonExpected
  | valueExpected
  | mixedTexts
deriving DecidableEq, Repr

def SyntaxError.message : SyntaxError → List Char
  | token error => error.message
  | neverClosed opening => "'".toList ++ opening :: "' was never closed".toList
  | invalid => "invalid syntax".toList
  | commaExpected => "invalid syntax. Perhaps you forgot a comma?".toList
  | equalsInstead => "invalid syntax. Maybe you meant '==' or ':=' instead of '='?".toList
  | assignedLiteral =>
    "cannot assign to literal here. Maybe you meant '==' instead of '='?".toList
  | assignedArgument =>
    "expression cannot contain assignment, perhaps you meant \"==\"?".toList
  | elseExpected => "expected 'else' after 'if' expression".toList
  | starred => "cannot use starred expression here".toList
  | doubleStarred => "cannot use double starred expression here".toList
  | callExpected name =>
    "Missing parentheses in call to '".toList ++ name ++ "'. Did you mean ".toList ++ name ++
      "(...)?".toList
  | colonExpected => "':' expected after dictionary key".toList
  | valueExpected => "expression expected after dictionary key and ':'".toList
  | mixedTexts => "cannot mix bytes and nonbytes literals".toList

inductive ValueError where
  | noLiteral
  | unhashable (kind : List Char)
deriving DecidableEq, Repr

def ValueError.message : ValueError → List Char
  | noLiteral => "malformed node or string".toList
  | unhashable kind => "unhashable type: '".toList ++ kind ++ "'".toList

inductive Form where
  | number (isImaginary : Bool)
  | signed (isImaginary : Bool)
  | name (text : List Char)
  | literal
  | other
deriving DecidableEq, Repr

structure Reading where
  form : Form
  value : Except ValueError (Option (List Char))

namespace Reading

def noLiteral (form : Form) : Reading := ⟨form, .error .noLiteral⟩

def ofNumber (isImaginary : Bool) : Reading := ⟨.number isImaginary, .ok none⟩

def constant : Reading := ⟨.literal, .ok none⟩

def signed (operand : Reading) : Reading :=
  match operand.form with
  | .number isImaginary => ⟨.signed isImaginary, .ok none⟩
  | _ => noLiteral .other

def joined (sign : List Char) (left right : Reading) : Reading :=
  if (left.form = .number false ∨ left.form = .signed false) ∧ right.form = .number true ∧
      (sign = ['+'] ∨ sign = ['-']) then ⟨.other, .ok none⟩
  else noLiteral .other

def tuple (items : List Reading) : Reading :=
  ⟨.other, (items.mapM Reading.value).map fun kinds => kinds.findSome? id⟩

def asElement (item : Reading) : Except ValueError Unit := do
  match ← item.value with
  | some kind => throw (.unhashable kind)
  | none => return ()

def set (items : List Reading) : Reading :=
  ⟨.other, (items.forM asElement).map fun () => some "set".toList⟩

def dictionary (entries : List (Reading × Reading)) : Reading :=
  ⟨.other, (entries.forM fun (key, value) => do
    let _ ← key.value
    let _ ← value.value
    asElement key).map fun () => some "dict".toList⟩

end Reading

structure Context where
  depth : Nat
  unclosed : Option Char
  isTrial : Bool

abbrev Read := Except SyntaxError

abbrev Cut := Reading × List Token

namespace Read

def sign (text : String) : Token := .sign text.toList

def keyword (text : String) : Token := .name text.toList

def peek (context : Context) (tokens : List Token) : Read (Option Token) :=
  match tokens, context.unclosed with
  | .strayContinuation :: _, _ => .error (.token .continuation)
  | token :: _, _ => .ok (some token)
  | [], some opening => .error (if context.depth = 0 then .invalid else .neverClosed opening)
  | [], none => .ok none

def complaint (context : Context) (error : SyntaxError) : SyntaxError :=
  if context.isTrial then .invalid else error

def orStay (back : Cut) : Read Cut → Read Cut
  | .error .invalid => .ok back
  | read => read

def expect (context : Context) (token : Token) (tokens : List Token) :
    Read (List Token) := do
  if (← peek context tokens) = some token then return tokens.drop 1 else throw .invalid

def keywords : List (List Char) :=
  ["False", "None", "True", "and", "as", "assert", "async", "await", "break", "class", "continue",
    "def", "del", "elif", "else", "except", "finally", "for", "from", "global", "if", "import",
    "in", "is", "lambda", "nonlocal", "not", "or", "pass", "raise", "return", "try", "while",
    "with", "yield"].map String.toList

def joiningSigns : List (List Char) :=
  ["+", "-", "*", "/", "//", "%", "@", "**", "<<", ">>", "&", "^", "|", "<", ">", "<=", ">=", "==",
    "!="].map String.toList

def joint? (tokens : List Token) : Option (List Char × List Token) :=
  match tokens with
  | .sign text :: rest => if joiningSigns.contains text then some (text, rest) else none
  | .name text :: rest =>
    if text = "and".toList ∨ text = "or".toList ∨ text = "in".toList then some (text, rest)
    else if text = "is".toList then
      if rest.head? = some (keyword "not") then some (text, rest.drop 1) else some (text, rest)
    else if text = "not".toList ∧ rest.head? = some (keyword "in") then some (text, rest.drop 1)
    else none
  | _ => none

def closing (opening : List Char) : Token :=
  if opening = ['('] then sign ")" else sign "\x7d"

def isText (token : Token) : Bool :=
  match token with
  | .quotation _ _ => true
  | _ => false

def isBytes (token : Token) : Bool := token matches .quotation true _

def isFormatted (token : Token) : Bool := token matches .quotation _ true

def texts (tokens : List Token) : Read Cut :=
  let parts := tokens.takeWhile isText
  let rest := tokens.dropWhile isText
  if parts.any isBytes && parts.any (!isBytes ·) then .error .mixedTexts
  else if parts.any isFormatted then .ok (.noLiteral .literal, rest)
  else .ok (.constant, rest)

def canMissComma : List Token → Bool
  | .name text :: .quotation _ _ :: _ => keywords.contains text
  | .name text :: _ => ["match", "case", "_"].all (·.toList ≠ text)
  | _ => true

def oldStatements : List (List Char) := ["print".toList, "exec".toList]

mutual

def checkNeighbours (context : Context) (start : List Token) (first : Reading)
    (rest : List Token) : Nat → Read Unit
  | 0 => .ok ()
  | fuel + 1 => do
    if context.isTrial then return ()
    let isOld := match first.form with
      | .name text => oldStatements.contains text
      | _ => false
    if canMissComma start then
      match expression { context with isTrial := true } rest fuel with
      | .ok _ => if context.depth ≠ 0 ∧ !isOld then throw .commaExpected
      | .error .invalid => pure ()
      | .error error => throw error
    match start with
    | .name text :: next =>
      if !keywords.contains text ∧ next.head? ≠ some (sign "(") then
        let hasValue ← statementValues context next fuel
        if hasValue ∧ oldStatements.contains text then throw (.callExpected text)
    | _ => return ()

def statementValues (context : Context) (tokens : List Token) : Nat → Read Bool
  | 0 => .ok false
  | fuel + 1 => do
    let start := if tokens.head? = some (sign "*") then tokens.drop 1 else tokens
    match expression context start fuel with
    | .ok (first, rest) =>
      if rest.head? = some (sign ",") then
        let _ ← statementValues context (rest.drop 1) fuel
      else checkNeighbours context start first rest fuel
      return true
    | .error .invalid => return false
    | .error error => throw error

def stuck (context : Context) (start : List Token) (first : Reading) (rest : List Token) :
    Nat → SyntaxError
  | 0 => .invalid
  | fuel + 1 =>
    match checkNeighbours context start first rest fuel with
    | .error error => error
    | .ok () =>
      if rest.head? = some (sign "=") ∧ context.depth ≠ 0 ∧ !context.isTrial then
        match expression context (rest.drop 1) fuel, first.form with
        | .error (.neverClosed opening), _ => .neverClosed opening
        | .ok (_, after), .name _ =>
          if after.head? = some (sign "=") ∨ after.head? = some (sign ":=") then .invalid
          else .equalsInstead
        | .ok _, .number _ => .assignedLiteral
        | .ok _, .literal => if start.head?.any isText then .assignedLiteral else .invalid
        | _, _ => .invalid
      else .invalid

def expression (context : Context) (tokens : List Token) : Nat → Read Cut
  | 0 => .error .invalid
  | fuel + 1 => do
    if (← peek context tokens) = some (keyword "lambda") then
      let names := tokens.drop 1
      let body := names.dropWhile (fun token =>
        token != sign ":" && token != sign ")" && token != sign "\x7d")
      let (_, rest) ← expression context (← expect context (sign ":") body) fuel
      return (.noLiteral .other, rest)
    let (first, rest) ← chain context tokens fuel
    if (← peek context rest) = some (keyword "if") then
      orStay (first, rest) (alternative context (rest.drop 1) fuel)
    else return (first, rest)

def alternative (context : Context) (tokens : List Token) : Nat → Read Cut
  | 0 => .error .invalid
  | fuel + 1 => do
    let (_, rest) ← chain context tokens fuel
    let next ← peek context rest
    if next = some (keyword "else") then
      let (_, rest) ← expression context (rest.drop 1) fuel
      return (.noLiteral .other, rest)
    else throw (if next = some (sign ":") then .invalid else complaint context .elseExpected)

def chain (context : Context) (tokens : List Token) : Nat → Read Cut
  | 0 => .error .invalid
  | fuel + 1 => do
    let (first, rest) ← operand context tokens fuel
    let _ ← peek context rest
    chainAfter context first rest fuel

def chainAfter (context : Context) (first : Reading) (tokens : List Token) : Nat → Read Cut
  | 0 => .error .invalid
  | fuel + 1 =>
    match joint? tokens with
    | none => .ok (first, tokens)
    | some (joint, rest) => orStay (first, tokens) do
      let (second, rest) ← operand context rest fuel
      let _ ← peek context rest
      chainAfter context (first.joined joint second) rest fuel

def operand (context : Context) (tokens : List Token) : Nat → Read Cut
  | 0 => .error .invalid
  | fuel + 1 => do
    match ← peek context tokens with
    | some (.sign text) =>
      if text = ['+'] ∨ text = ['-'] then
        let (inner, rest) ← operand context (tokens.drop 1) fuel
        return (inner.signed, rest)
      else if text = ['~'] then
        let (_, rest) ← operand context (tokens.drop 1) fuel
        return (.noLiteral .other, rest)
      else primary context tokens fuel
    | some (.name text) =>
      if text = "not".toList ∨ text = "await".toList then
        let (_, rest) ← operand context (tokens.drop 1) fuel
        return (.noLiteral .other, rest)
      else primary context tokens fuel
    | _ => primary context tokens fuel

def primary (context : Context) (tokens : List Token) : Nat → Read Cut
  | 0 => .error .invalid
  | fuel + 1 => do
    let (first, rest) ← atom context tokens fuel
    trailers context first rest fuel

def trailers (context : Context) (first : Reading) (tokens : List Token) : Nat → Read Cut
  | 0 => .error .invalid
  | fuel + 1 => do
    match ← peek context tokens with
    | some (.sign ['.']) =>
      match ← peek context (tokens.drop 1) with
      | some (.name text) =>
        if keywords.contains text then return (first, tokens)
        else trailers context (.noLiteral .other) (tokens.drop 2) fuel
      | _ => return (first, tokens)
    | some (.sign ['(']) => orStay (first, tokens) do
      let inner := { context with depth := context.depth + 1 }
      let rest ← arguments inner (tokens.drop 1) fuel
      let isSet := first.form = .name "set".toList ∧ tokens.drop 2 = rest
      trailers context (if isSet then .set [] else .noLiteral .other) rest fuel
    | some (.sign ['\x7b']) =>
      checkElements { context with depth := context.depth + 1 } (tokens.drop 1) fuel
      return (first, tokens)
    | _ => return (first, tokens)

def checkElements (context : Context) (tokens : List Token) : Nat → Read Unit
  | 0 => .ok ()
  | fuel + 1 => do
    if context.isTrial then return ()
    let start := if (← peek context tokens) = some (sign "*") then tokens.drop 1 else tokens
    match element context start fuel with
    | .error .invalid => return ()
    | .error error => throw error
    | .ok (first, rest) =>
      if (← peek context rest) = some (sign ",") then checkElements context (rest.drop 1) fuel
      else match stuck context start first rest fuel with
      | .invalid => return ()
      | error => throw error

def arguments (context : Context) (tokens : List Token) : Nat → Read (List Token)
  | 0 => .error .invalid
  | fuel + 1 => do
    if (← peek context tokens) = some (sign ")") then return tokens.drop 1
    let isStarred := tokens.head? = some (sign "*") ∨ tokens.head? = some (sign "**")
    let isNamed := (tokens.head? matches some (.name _)) ∧ tokens[1]? = some (sign "=")
    let start := if isStarred then tokens.drop 1 else if isNamed then tokens.drop 2 else tokens
    let (first, rest) ← element context start fuel
    match ← peek context rest with
    | some (.sign [',']) => arguments context (rest.drop 1) fuel
    | some (.sign [')']) => return rest.drop 1
    | next =>
      checkNeighbours context start first rest fuel
      if next = some (sign "=") then throw (complaint context .assignedArgument)
      else throw .invalid

def element (context : Context) (tokens : List Token) : Nat → Read Cut
  | 0 => .error .invalid
  | fuel + 1 => do
    let (first, rest) ← expression context tokens fuel
    match first.form, ← peek context rest with
    | .name _, some (.sign [':', '=']) =>
      let (_, rest) ← expression context (rest.drop 1) fuel
      return (.noLiteral .other, rest)
    | _, some (.name text) =>
      if text = "for".toList then
        return (.noLiteral .other, ← clauses context rest fuel)
      else if text = "async".toList ∧ rest[1]? = some (keyword "for") then
        return (.noLiteral .other, ← clauses context (rest.drop 1) fuel)
      else return (first, rest)
    | _, _ => return (first, rest)

def clauses (context : Context) (tokens : List Token) : Nat → Read (List Token)
  | 0 => .error .invalid
  | fuel + 1 => do
    match ← peek context tokens with
    | some (.name text) =>
      if text = "for".toList then
        let rest ← targets context (tokens.drop 1) fuel
        let (_, rest) ← chain context rest fuel
        clauses context rest fuel
      else if text = "if".toList then
        let (_, rest) ← chain context (tokens.drop 1) fuel
        clauses context rest fuel
      else return tokens
    | _ => return tokens

def targets (context : Context) (tokens : List Token) : Nat → Read (List Token)
  | 0 => .error .invalid
  | fuel + 1 => do
    let (_, rest) ← primary context tokens fuel
    match ← peek context rest with
    | some (.sign [',']) => targets context (rest.drop 1) fuel
    | some (.name text) => if text = "in".toList then return rest.drop 1 else throw .invalid
    | _ => throw .invalid

def atom (context : Context) (tokens : List Token) : Nat → Read Cut
  | 0 => .error .invalid
  | fuel + 1 => do
    let inner := { context with depth := context.depth + 1 }
    match ← peek context tokens with
    | some (.number isImaginary) => return (.ofNumber isImaginary, tokens.drop 1)
    | some (.quotation _ _) => texts tokens
    | some (.name text) =>
      if ["True", "False", "None"].any (·.toList = text) then return (.constant, tokens.drop 1)
      else if keywords.contains text then throw .invalid
      else return (.noLiteral (.name text), tokens.drop 1)
    | some (.sign text) =>
      if text = "...".toList then return (.constant, tokens.drop 1)
      else if text = ['('] then group inner (tokens.drop 1) fuel
      else if text = ['\x7b'] then braces inner (tokens.drop 1) fuel
      else throw .invalid
    | _ => throw .invalid

def group (context : Context) (tokens : List Token) : Nat → Read Cut
  | 0 => .error .invalid
  | fuel + 1 => do
    match ← peek context tokens with
    | some (.sign [')']) => return (.tuple [], tokens.drop 1)
    | some (.sign ['*', '*']) =>
      let (_, rest) ← expression context (tokens.drop 1) fuel
      if (← peek context rest) = some (sign ")") then throw (complaint context .doubleStarred)
      else throw .invalid
    | some (.name text) =>
      if text = "yield".toList then
        let start := if tokens[1]? = some (keyword "from") then tokens.drop 2 else tokens.drop 1
        if (← peek context start) = some (sign ")") then return (.noLiteral .other, start.drop 1)
        let (_, rest, _) ← items context (sign ")") start fuel
        return (.noLiteral .other, rest)
      else grouped context tokens fuel
    | _ => grouped context tokens fuel

def grouped (context : Context) (tokens : List Token) : Nat → Read Cut
  | 0 => .error .invalid
  | fuel + 1 => do
    let (read, rest, hasComma) ← items context (sign ")") tokens fuel
    match read, hasComma with
    | [single], false =>
      if tokens.head? = some (sign "*") then throw (complaint context .starred)
      else return (single, rest)
    | read, _ => return (.tuple read, rest)

def items (context : Context) (close : Token) (tokens : List Token) :
    Nat → Read (List Reading × List Token × Bool)
  | 0 => .error .invalid
  | fuel + 1 => do
    let isStarred := (← peek context tokens) = some (sign "*")
    let start := if isStarred then tokens.drop 1 else tokens
    let (first, rest) ← element context start fuel
    let first := if isStarred then Reading.noLiteral .other else first
    let next ← peek context rest
    if next = some (sign ",") then
      if (← peek context (rest.drop 1)) = some close then return ([first], rest.drop 2, true)
      let (others, rest, _) ← items context close (rest.drop 1) fuel
      return (first :: others, rest, true)
    else if next = some close then return ([first], rest.drop 1, false)
    else throw (stuck context start first rest fuel)

def braces (context : Context) (tokens : List Token) : Nat → Read Cut
  | 0 => .error .invalid
  | fuel + 1 => do
    let close := sign "\x7d"
    match ← peek context tokens with
    | some (.sign ['\x7d']) => return (.dictionary [], tokens.drop 1)
    | some (.sign ['*', '*']) =>
      let (entries, rest) ← dictionaryEntries context tokens fuel
      return (.dictionary entries, rest)
    | some (.sign ['*']) =>
      let (read, rest, _) ← items context close tokens fuel
      return (.set read, rest)
    | _ =>
      let (_, rest) ← element context tokens fuel
      if (← peek context rest) = some (sign ":") then
        let (entries, rest) ← dictionaryEntries context tokens fuel
        return (.dictionary entries, rest)
      else
        let (read, rest, _) ← items context close tokens fuel
        return (.set read, rest)

def dictionaryEntries (context : Context) (tokens : List Token) :
    Nat → Read (List (Reading × Reading) × List Token)
  | 0 => .error .invalid
  | fuel + 1 => do
    let isStarred := (← peek context tokens) = some (sign "**")
    let (entry, start, last, rest) ← if isStarred then
        let (_, rest) ← chain context (tokens.drop 1) fuel
        pure ((Reading.noLiteral .other, Reading.constant), tokens, Reading.noLiteral .other, rest)
      else do
        let (key, afterKey) ← expression context tokens fuel
        let next ← peek context afterKey
        if next = some (sign ":") then
          let start := afterKey.drop 1
          let next ← peek context start
          if next = some (sign ",") ∨ next = some (sign "\x7d") then
            throw (complaint context .valueExpected)
          let (value, rest) ← expression context start fuel
          pure ((key, value), start, value, rest)
        else
          checkNeighbours context tokens key afterKey fuel
          throw (complaint context .colonExpected)
    match ← peek context rest with
    | some (.sign [',']) =>
      if (← peek context (rest.drop 1)) = some (sign "\x7d") then return ([entry], rest.drop 2)
      let (entries, rest) ← dictionaryEntries context (rest.drop 1) fuel
      return (entry :: entries, rest)
    | some (.sign ['\x7d']) => return ([entry], rest.drop 1)
    | some (.name text) =>
      if text = "for".toList then
        let rest ← clauses context rest fuel
        return ([(Reading.noLiteral .other, Reading.constant)],
          ← expect context (sign "\x7d") rest)
      else throw (stuck context start last rest fuel)
    | _ => throw (stuck context start last rest fuel)

end

def whole (context : Context) (tokens : List Token) : Nat → Read (List Reading × Bool)
  | 0 => .error .invalid
  | fuel + 1 => do
    let (first, rest) ← expression context tokens (8 * tokens.length + 16)
    match rest with
    | [] => return ([first], false)
    | [.sign [',']] => return ([first], true)
    | .sign [','] :: rest =>
      let (others, _) ← whole context rest fuel
      return (first :: others, true)
    | _ => throw (stuck context tokens first rest (8 * tokens.length + 16))

end Read

def read (text : List Char) : Except SyntaxError Reading := do
  let (tokens, opened) ← (Token.list text).mapError .token
  let (read, hasComma) ← Read.whole ⟨0, opened.head?.map (·.1), false⟩ tokens (tokens.length + 1)
  match read, hasComma with
  | [single], false => return single
  | read, _ => return .tuple read

end Parameter

end EnumExport
