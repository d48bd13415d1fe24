import QueryFuzz.Shell.Token

/-!
# Reading shell commands

Words and commands are read together, since a word may hold commands. A script is read one complete
command at a time, and each is run before the next is read, so what stands before a malformed line
takes effect.
-/

namespace QueryFuzz
namespace Shell

/-- What decides the meaning of a character in a word. -/
inductive Place where
  | bare
  /-- In the announcement of a document, where nothing is expanded. -/
  | mark
  /-- In the braces of a parameter outside of double quotes. -/
  | braces
  | quotes
  /-- In the braces of a parameter within double quotes or a document; `inner` tells whether
  quotes were opened in the braces. -/
  | quotedBraces (inner : Bool)
  | document (a : Announcement) (atLineStart : Bool)
  | sum (depth : Nat)

namespace Place

def isQuoted : Place → Bool
  | bare | mark | braces => false
  | _ => true

/-- Is a backslash needed to take the character as it is? -/
def escapes (p : Place) (c : Char) : Bool :=
  let always := ['\\', '$', '\x60']
  match p with
  | quotes | sum _ => ('"' :: always).contains c
  | quotedBraces _ => ('"' :: '\x7d' :: always).contains c
  | document .. => always.contains c
  | _ => true

/-- The complaint if the script ends here; none if it may. -/
def complaint? : Place → Option String
  | quotes | quotedBraces _ => some "Syntax error: Unterminated quoted string"
  | braces => some "Syntax error: Missing '\x7d'"
  | sum _ => some "Syntax error: Missing '))'"
  | _ => none

/-- The place behind the next character. -/
def next : Place → Place
  | document a _ => document a false
  | p => p

end Place

/-- The characters that may have a meaning somewhere. -/
def isSpecial (c : Char) : Bool :=
  ['\\', '$', '\x60', '\'', '"', '\x7d'].contains c || Reading.isDelimiter c

/-- Parameters whose name is one mark. -/
def isParameterMark (c : Char) : Bool := ['!', '#', '$', '*', '-', '?', '@'].contains c

/-- Which part of a word in quotes stays a word of its own: all arguments, and nothing else. -/
def quotedWord (inside : Word) : Word :=
  match inside with
  | [.parameter "@" .value true] => inside
  | _ => inside.foldl addPiece [.text "" true]

namespace Reading

/-- Takes the lines of a document in which nothing is expanded. -/
def plainLines (a : Announcement) : Nat → Reading String
  | 0 => return ""
  | fuel + 1 => do
    if (← get).rest.isEmpty then return ""
    if a.stripsTabs then
      let _ ← takeWhile (· = '\t')
    let line ← takeWhile (· ≠ '\n')
    let more := !(← get).rest.isEmpty
    advance
    if line = a.mark then return ""
    return line ++ (if more then "\n" else "") ++ (← plainLines a fuel)

/-- Takes the line that ends a document, if it comes next. -/
def acceptMark (a : Announcement) : Reading Bool := do
  let _ ← peek
  if a.stripsTabs then
    let _ ← takeWhile (· = '\t')
  let line := (← get).rest.takeWhile (· ≠ '\n')
  if String.ofList line = a.mark then
    let _ ← take (line.length + 1)
    return true
  else return false

/-- The script between two backquotes, in which some backslashes are needed for the quotes. -/
def backquoted (quoted : Bool) : Nat → Reading String
  | 0 => failWith "Syntax error: EOF in backquote substitution"
  | fuel + 1 => do
    match ← peek with
    | none => failWith "Syntax error: EOF in backquote substitution"
    | some '\x60' =>
      advance
      return ""
    | some '\\' =>
      advance
      let escaped := (← peekRaw).any fun c =>
        c = '\\' || c = '$' || c = '\x60' || (quoted && c = '"')
      let c ← take 1
      return (if escaped then c else "\\" ++ c) ++ (← backquoted quoted fuel)
    | some c =>
      advance
      return c.toString ++ (← backquoted quoted fuel)

/-- The name of a parameter in braces, and whether its length is asked for. -/
def parameterName (fuel : Nat) : Reading (Option (String × Bool)) := do
  match ← peek with
  | none => return none
  | some c =>
    if isNameStart c then return some (← takeJoined isNameChar fuel, false)
    else if c.isDigit then return some (← takeJoined Char.isDigit fuel, false)
    else if c = '\x7d' then return none
    else
      advance
      if c = '#' then
        match ← peek with
        | some d =>
          if isNameStart d then return some (← takeJoined isNameChar fuel, true)
          else if d.isDigit then return some (← takeJoined Char.isDigit fuel, true)
          else if isParameterMark d && (← get).rest[1]? = some '\x7d' then
            advance
            return some (d.toString, true)
          else return some ("#", false)
        | none => return some ("#", false)
      else return if isParameterMark c then some (c.toString, false) else none

mutual

/-- The pieces of a word from some place on, behind those that are there. -/
def pieces : Nat → Place → Word → Reading Word
  | 0, _, _ => failWith "Syntax error: Word too long"
  | fuel + 1, place, w => do
    match place with
    | .document a true => if ← acceptMark a then return w
    | _ => pure ()
    let text := fun (s : String) => addPiece w (.text s place.isQuoted)
    match ← peek with
    | none => match place.complaint? with
      | some complaint => failWith complaint
      | none => return w
    | some c =>
      if !isSpecial c then
        pieces fuel place.next (text (← takeWhile (!isSpecial ·)))
      else match place, c with
      | _, '\\' =>
        advance
        match ← peekRaw with
        | none => pieces fuel place.next (addPiece w (.text "\\" true))
        | some c =>
          advance
          let s := if place.escapes c then c.toString else "\\" ++ c.toString
          pieces fuel place.next (addPiece w (.text s true))
      | .mark, '$' | .mark, '\x60' =>
        advance
        pieces fuel place (text c.toString)
      | _, '$' =>
        advance
        pieces fuel place.next (addPiece w (← dollar fuel place))
      | _, '\x60' =>
        advance
        let script ← backquoted place.isQuoted ((← get).rest.length + 1)
        let outer ← get
        set { outer with rest := script.toList, line := 1, announced := [] }
        let c ← list fuel false true .nothing
        modify fun r => { r with
          rest := outer.rest, line := outer.line, announced := outer.announced
          last := outer.last, held := false }
        pieces fuel place.next (addPiece w (.output c place.isQuoted))
      | .bare, '\'' | .mark, '\'' | .braces, '\'' =>
        advance
        let s ← takeWhile (· ≠ '\'')
        if (← get).rest.isEmpty then failWith "Syntax error: Unterminated quoted string"
        advance
        pieces fuel place (addPiece w (.text s true))
      | .bare, '"' | .mark, '"' | .braces, '"' =>
        advance
        let inside ← pieces fuel .quotes []
        pieces fuel place ((quotedWord inside).foldl addPiece w)
      | .quotes, '"' =>
        advance
        return w
      | .quotedBraces inner, '"' =>
        advance
        pieces fuel (.quotedBraces !inner) w
      | .braces, '\x7d' | .quotedBraces false, '\x7d' =>
        advance
        return w
      | .sum depth, '(' =>
        advance
        pieces fuel (.sum (depth + 1)) (text "(")
      | .sum (depth + 1), ')' =>
        advance
        pieces fuel (.sum depth) (text ")")
      | .sum 0, ')' =>
        advance
        if ← accept ')' then return w else pieces fuel place (text ")")
      | .document a _, '\n' =>
        advance
        pieces fuel (.document a true) (text "\n")
      | _, _ =>
        if (place matches .bare || place matches .mark) && isDelimiter c then return w
        advance
        pieces fuel place.next (text c.toString)

/-- The piece behind a dollar sign. -/
def dollar : Nat → Place → Reading Piece
  | 0, _ => failWith "Syntax error: Word too long"
  | fuel + 1, place => do
    let quoted := place.isQuoted
    match ← peek with
    | some '(' =>
      advance
      if ← accept '(' then return .sum (← pieces fuel (.sum 0) []) quoted
      else
        let announced := (← get).announced
        modify fun r => { r with announced := [] }
        let c ← list fuel false true .nothing
        if !(← token fuel false false false).isMark ")" then unexpected (some "\")\"")
        modify fun r => { r with announced := announced }
        return .output c quoted
    | some '\x7b' =>
      advance
      inBraces fuel place
    | some c =>
      if isNameStart c then
        return .parameter (← takeJoined isNameChar ((← get).rest.length)) .value quoted
      else if c.isDigit || isParameterMark c then
        advance
        return .parameter c.toString .value quoted
      else return .text "$" quoted
    | none => return .text "$" quoted

/-- The parameter behind an opening brace. -/
def inBraces : Nat → Place → Reading Piece
  | 0, _ => failWith "Syntax error: Word too long"
  | fuel + 1, place => do
    let quoted := place.isQuoted
    let wordPlace := if quoted then Place.quotedBraces false else .braces
    match ← parameterName ((← get).rest.length) with
    | none =>
      let _ ← pieces fuel wordPlace []
      return .parameter "" .malformed quoted
    | some (name, true) =>
      let closed := (← peek) = some '\x7d'
      let _ ← pieces fuel wordPlace []
      return .parameter name (if closed then .length else .malformed) quoted
    | some (name, false) =>
      if ← accept '\x7d' then return .parameter name .value quoted
      let nonempty ← accept ':'
      match ← peek with
      | some c =>
        if ['-', '+', '?', '='].contains c then
          advance
          return .parameter name (.otherwise c nonempty (← pieces fuel wordPlace [])) quoted
        else if !nonempty && (c = '%' || c = '#') then
          advance
          let longest ← accept c
          let pattern ← pieces fuel .braces []
          return .parameter name (.trimmed (c = '%') longest pattern) quoted
        else
          if nonempty then advance
          let _ ← pieces fuel wordPlace []
          return .parameter name .malformed quoted
      | none =>
        let _ ← pieces fuel wordPlace []
        return .parameter name .malformed quoted

/-- The next token as it is spelled. -/
def spelled : Nat → Bool → Reading Token
  | 0, _ => failWith "Syntax error: Word too long"
  | fuel + 1, isMark => do
    skipBlanks ((← get).rest.length + 1)
    match ← operator? with
    | some t => setLast t
    | none =>
      let w ← pieces fuel (if isMark then .mark else .bare) []
      let next ← peek
      let digit? := match w with
        | [.text s false] => if s.length = 1 then s.toNat? else none
        | _ => none
      if (next = some '<' || next = some '>') && (w.isEmpty || digit?.isSome) then
        setLast (← redirection digit?)
      else setLast (.word w)

/-- The next token where line breaks are skipped, keywords are known and aliases are expanded or
not. -/
def token : Nat → Bool → Bool → Bool → Reading Token
  | 0, _, _, _ => failWith "Syntax error: Word too long"
  | fuel + 1, skipsBreaks, knowsKeywords, knowsAliases => do
    let held := (← get).held
    modify fun r => { r with held := false }
    let t ← if held then pure (← get).last else spelled fuel false
    match t with
    | .newline =>
      if skipsBreaks then
        documents fuel
        token fuel skipsBreaks knowsKeywords knowsAliases
      else return t
    | .word w =>
      match plainText? w with
      | none => return t
      | some s =>
        if knowsKeywords && keywords.contains s then setLast (.mark s)
        else
          let chained ← isChained
          let expands ←
            if !held && (knowsAliases || chained) then expandAlias s else pure false
          if expands then token fuel skipsBreaks knowsKeywords true else return t
    | t => return t

/-- Reads the documents that were announced. -/
def documents : Nat → Reading Unit
  | 0 => return
  | fuel + 1 => do
    match (← get).announced with
    | [] => return
    | a :: later =>
      modify fun r => { r with announced := [] }
      let w ←
        if a.literal then pure [Piece.text (← plainLines a ((← get).rest.length + 1)) true]
        else pieces fuel (.document a true) []
      modify fun r => { r with announced := later, documents := (a.number, w) :: r.documents }
      documents fuel

/-- Commands up to the end of a surrounding one, or of the line at the top, behind those that are
there. The list may be empty where `mayEnd` says so. -/
def list : Nat → Bool → Bool → Command → Reading Command
  | 0, _, _, _ => failWith "Syntax error: Command too long"
  | fuel + 1, isTop, mayEnd, before => do
    match ← token fuel (!isTop) true true with
    | .newline =>
      documents fuel
      return before
    | .finish =>
      documents fuel
      let _ ← setLast .finish
      hold
      return before
    | t =>
      hold
      if !isTop && mayEnd && t.endsList then return before
      let c ← andOr fuel
      let next ← token fuel false false false
      let c := if next.isMark "&" then .background c else c
      let c := if before.isNothing then c else .sequence before c
      match next with
      | .finish =>
        documents fuel
        let _ ← setLast .finish
        hold
        return c
      | .newline =>
        hold
        list fuel isTop true c
      | t =>
        if t.isMark "&" || t.isMark ";" then list fuel isTop true c
        else if isTop then unexpected none
        else
          hold
          return c

/-- Pipelines that depend on each other's success, from left to right. -/
def andOr : Nat → Reading Command
  | 0 => failWith "Syntax error: Command too long"
  | fuel + 1 => do andOrFrom fuel (← pipeline fuel false)

def andOrFrom : Nat → Command → Reading Command
  | 0, _ => failWith "Syntax error: Command too long"
  | fuel + 1, first => do
    let t ← token fuel false false false
    if t.isMark "&&" then andOrFrom fuel (.both first (← pipeline fuel true))
    else if t.isMark "||" then andOrFrom fuel (.either first (← pipeline fuel true))
    else
      hold
      return first

def pipeline : Nat → Bool → Reading Command
  | 0, _ => failWith "Syntax error: Command too long"
  | fuel + 1, skipsBreaks => do
    let negated := (← token fuel skipsBreaks true true).isMark "!"
    if !negated then hold
    let first ← command fuel false
    let stages ← stages fuel
    let c := if stages.isEmpty then first else .pipeline (first :: stages)
    return if negated then .negated c else c

/-- The later commands of a pipeline. -/
def stages : Nat → Reading (List Command)
  | 0 => failWith "Syntax error: Command too long"
  | fuel + 1 => do
    if (← token fuel false false false).isMark "|" then
      let c ← command fuel true
      return c :: (← stages fuel)
    else
      hold
      return []

/-- A command with the redirections behind it. -/
def command : Nat → Bool → Reading Command
  | 0, _ => failWith "Syntax error: Command too long"
  | fuel + 1, skipsBreaks => do
    let line := (← get).line
    let close := fun (mark : String) (c : Command) => do
      if !(← token fuel false false false).isMark mark then unexpected (some ("\"" ++ mark ++ "\""))
      redirected fuel line c
    match ← token fuel skipsBreaks true true with
    | .mark "if" => close "fi" (← branches fuel)
    | .mark "while" => close "done" (← loop fuel true)
    | .mark "until" => close "done" (← loop fuel false)
    | .mark "for" => close "done" (← each fuel line)
    | .mark "case" => do redirected fuel line (← select fuel line)
    | .mark "(" => close ")" (.subshell line (← list fuel false false .nothing))
    | .mark "\x7b" => close "\x7d" (← list fuel false false .nothing)
    | .word _ | .redirection .. =>
      hold
      simple fuel (← get).line true [] [] []
    | _ => unexpected none

/-- A command with the redirections that follow it. -/
def redirected : Nat → Nat → Command → Reading Command
  | 0, _, _ => failWith "Syntax error: Command too long"
  | fuel + 1, line, c => do
    let rs ← redirections fuel
    return if rs.isEmpty then c else .redirected line c rs

def redirections : Nat → Reading (List Redirection)
  | 0 => failWith "Syntax error: Command too long"
  | fuel + 1 => do
    match ← token fuel false true true with
    | .redirection descriptor direction stripsTabs =>
      let r ← target fuel descriptor direction stripsTabs
      return r :: (← redirections fuel)
    | _ =>
      hold
      return []

/-- A redirection with the word behind its mark. -/
def target : Nat → Option Nat → Direction → Bool → Reading Redirection
  | 0, _, _, _ => failWith "Syntax error: Command too long"
  | fuel + 1, descriptor, direction, stripsTabs => do
    let isDocument := direction matches .document _
    match ← if isDocument then spelled fuel true else token fuel false false false with
    | .word w =>
      if isDocument then
        let text := String.join (w.map fun
          | .text s _ => s
          | _ => "")
        let literal := w.any fun
          | .text _ quoted => quoted
          | _ => false
        modify fun r => { r with
          announced := r.announced ++ [⟨r.nextDocument, text, stripsTabs, literal⟩]
          nextDocument := r.nextDocument + 1 }
        return .to (descriptor.getD 0) (.document ((← get).nextDocument - 1)) []
      else return .to (descriptor.getD 0) direction w
    | _ => unexpected none

/-- A simple command, or the definition of a function. -/
def simple : Nat → Nat → Bool → List (String × Word) → List Word → List Redirection →
    Reading Command
  | 0, _, _, _, _, _ => failWith "Syntax error: Command too long"
  | fuel + 1, line, atStart, assignments, words, rs => do
    match ← token fuel false false atStart with
    | .word w =>
      match if atStart then assignment? w else none with
      | some a => simple fuel line true (assignments ++ [a]) words rs
      | none => simple fuel line false assignments (words ++ [w]) rs
    | .redirection descriptor direction stripsTabs =>
      let r ← target fuel descriptor direction stripsTabs
      simple fuel line atStart assignments words (rs ++ [r])
    | t =>
      match words with
      | [w] =>
        if t.isMark "(" && assignments.isEmpty && rs.isEmpty then
          if !(← token fuel false false false).isMark ")" then unexpected (some "\")\"")
          let name := (plainText? w).getD ""
          if !isName name || specialNames.contains name then
            failWith "Syntax error: Bad function name"
          return .define name (← command fuel true)
      | _ => pure ()
      hold
      return .simple line assignments words rs

/-- A condition, what follows if it holds, and the alternatives. -/
def branches : Nat → Reading Command
  | 0 => failWith "Syntax error: Command too long"
  | fuel + 1 => do
    let condition ← list fuel false false .nothing
    if !(← token fuel false false false).isMark "then" then unexpected (some "\"then\"")
    let yes ← list fuel false false .nothing
    let t ← token fuel false false false
    if t.isMark "elif" then return .choice condition yes (← branches fuel)
    else if t.isMark "else" then
      return .choice condition yes (← list fuel false false .nothing)
    else
      hold
      return .choice condition yes .nothing

def loop : Nat → Bool → Reading Command
  | 0, _ => failWith "Syntax error: Command too long"
  | fuel + 1, whileSuccess => do
    let condition ← list fuel false false .nothing
    if !(← token fuel false false false).isMark "do" then unexpected (some "\"do\"")
    return .loop whileSuccess condition (← list fuel false false .nothing)

def each : Nat → Nat → Reading Command
  | 0, _ => failWith "Syntax error: Command too long"
  | fuel + 1, line => do
    let name := match ← token fuel false false false with
      | .word w => (plainText? w).getD ""
      | _ => ""
    if !isName name then failWith "Syntax error: Bad for loop variable"
    let named := (← token fuel true true true).isMark "in"
    let items ← if named then items fuel else do
      if !(← get).last.isMark ";" then hold
      pure [[Piece.parameter "@" .value true]]
    if !(← token fuel true true true).isMark "do" then unexpected (some "\"do\"")
    return .each line name items (← list fuel false false .nothing)

/-- The words up to the end of the line, or to a semicolon. -/
def items : Nat → Reading (List Word)
  | 0 => failWith "Syntax error: Command too long"
  | fuel + 1 => do
    match ← token fuel false false false with
    | .word w => return w :: (← items fuel)
    | t => if t.isNewline || t.isMark ";" then return [] else unexpected none

def select : Nat → Nat → Reading Command
  | 0, _ => failWith "Syntax error: Command too long"
  | fuel + 1, line => do
    match ← token fuel false false false with
    | .word subject =>
      if !(← token fuel true true true).isMark "in" then unexpected (some "\"in\"")
      return .select line subject (← cases fuel)
    | _ => unexpected (some "word")

def cases : Nat → Reading (List (List Word × Command))
  | 0 => failWith "Syntax error: Command too long"
  | fuel + 1 => do
    let t ← token fuel true true false
    if t.isMark "esac" then return []
    let t ← if t.isMark "(" then token fuel false false false else pure t
    let ps ← patterns fuel t
    let body ← list fuel false true .nothing
    let t ← token fuel true true false
    if t.isMark "esac" then return [(ps, body)]
    else if t.isMark ";;" then return (ps, body) :: (← cases fuel)
    else unexpected (some "\";;\"")

/-- The patterns of a case from a token on, up to the closing parenthesis. -/
def patterns : Nat → Token → Reading (List Word)
  | 0, _ => failWith "Syntax error: Command too long"
  | fuel + 1, t => do
    let w := match t with
      | .word w => w
      | .mark s => [.text s false]
      | _ => []
    let next ← token fuel false false false
    if next.isMark "|" then return w :: (← patterns fuel (← token fuel false false false))
    else if next.isMark ")" then return [w]
    else unexpected (some "\")\"")

end

end Reading

/-- Steps that suffice for reading what is left of a script. -/
def Reader.fuel (r : Reader) : Nat :=
  r.aliases.foldl (fun n (_, text) => n + 64 * text.length) (32 * (r.rest.length + 64))

/-- The next command, which is nothing on an empty line; none at the end of the script. -/
def Reader.next (r : Reader) : Except SyntaxError (Option Command × Reader) := do
  let (c, r) ← (Reading.list r.fuel true false .nothing).run r
  return (if c.isNothing && r.last matches .finish then none else some c, r)

end Shell
end QueryFuzz
