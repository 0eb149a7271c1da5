import LevelCross.Store.Table

/-!
# Scripts of statements on the store

A script is a text of statements separated by `;`. Two kinds of statement change the store:
creating a table from column definitions, and inserting rows of literal values, with or
without a list of the columns they fill. Any other statement (an index, for instance) leaves
the store as it is.

Reading goes in two steps: the text becomes a list of `Token`s, and the tokens of each
statement become a `Statement`. A column definition is a name, a declared type of one or more
words, and constraints: `PRIMARY KEY` on a column declared `INTEGER` makes it the key column,
`NOT NULL` forbids nothing, `DEFAULT` gives the value of omitted writes; the other constraints
are read and have no effect here.
-/

namespace LevelCross.Store

open LevelCross.Number

/-- A token of a statement. -/
inductive Token where
  /-- a bare word: a keyword or a name -/
  | word (s : String)
  /-- a quoted name -/
  | quotedName (s : String)
  /-- a numeric literal as written -/
  | number (s : String)
  /-- a text literal -/
  | str (s : String)
  /-- any other character -/
  | sym (c : Char)
deriving DecidableEq, Repr, Inhabited

/-- The token is this keyword, in any ASCII case. -/
def Token.isWord (k : String) : Token → Bool
  | .word w => sameName w k
  | _ => false

/-- The text a token stands for when it names a table or column. -/
def Token.name? : Token → Option String
  | .word w => some w
  | .quotedName n => some n
  | .str s => some s
  | _ => none

/-- A character that continues a bare word. -/
def isWordChar (c : Char) : Bool := c.isAlphanum || c == '_' || c == '$' || c.toNat ≥ 128

/-- The body of a quoted token up to its closing quote, a doubled quote standing for one; the
rest of the text follows it. -/
def quotedBody (q : Char) : List Char → List Char → Option (String × List Char)
  | _, [] => none
  | acc, [c] => if c == q then some (String.ofList acc.reverse, []) else none
  | acc, c :: d :: rest =>
    if c == q then
      if d == q then quotedBody q (q :: acc) rest
      else some (String.ofList acc.reverse, d :: rest)
    else quotedBody q (c :: acc) (d :: rest)

/-- The characters of a numeric literal at the front of the text: digits, a point, digits,
then an exponent if one follows. -/
def numberSpan (cs : List Char) : List Char × List Char :=
  let whole := cs.takeWhile Char.isDigit
  let rest := cs.dropWhile Char.isDigit
  let (frac, rest) := match rest with
    | '.' :: more => ('.' :: more.takeWhile Char.isDigit, more.dropWhile Char.isDigit)
    | _ => ([], rest)
  let (ex, rest) := match rest with
    | e :: more =>
      if e == 'e' || e == 'E' then
        let (sg, more') := match more with
          | '+' :: m => (['+'], m)
          | '-' :: m => (['-'], m)
          | _ => ([], more)
        let ds := more'.takeWhile Char.isDigit
        if ds.isEmpty then ([], e :: more) else (e :: sg ++ ds, more'.dropWhile Char.isDigit)
      else ([], e :: more)
    | [] => ([], [])
  (whole ++ frac ++ ex, rest)

/-- Cut a text into tokens, each step taking at least one character; the fuel bounds the
steps. Blanks and `--` comments separate tokens. -/
def tokensWith : Nat → List Char → List Token → Except Fault (List Token)
  | 0, _, acc => .ok acc.reverse
  | _, [], acc => .ok acc.reverse
  | fuel + 1, c :: cs, acc =>
    if c.isWhitespace then tokensWith fuel cs acc
    else if c == '-' && cs.head? == some '-' then
      tokensWith fuel (cs.dropWhile (· != '\n')) acc
    else if c == '\'' || c == '"' || c == '`' then
      match quotedBody c [] cs with
      | some (s, rest) =>
        tokensWith fuel rest ((if c == '\'' then Token.str s else .quotedName s) :: acc)
      | none => .error (.malformed (String.ofList (c :: cs)))
    else if c == '[' then
      let body := cs.takeWhile (· != ']')
      tokensWith fuel (cs.drop (body.length + 1)) (.quotedName (String.ofList body) :: acc)
    else if c.isDigit || (c == '.' && (cs.head?.map Char.isDigit).getD false) then
      let (lit, rest) := numberSpan (c :: cs)
      if lit.isEmpty then tokensWith fuel cs (.sym c :: acc)
      else tokensWith fuel rest (.number (String.ofList lit) :: acc)
    else if isWordChar c then
      let w := cs.takeWhile isWordChar
      tokensWith fuel (cs.drop w.length) (.word (String.ofList (c :: w)) :: acc)
    else tokensWith fuel cs (.sym c :: acc)

/-- The tokens of a text. -/
def tokenize (s : String) : Except Fault (List Token) :=
  tokensWith (s.length + 1) s.toList []

/-- Split tokens at the separators that stand outside every pair of brackets. -/
def splitTop (sep : Char) (ts : List Token) : List (List Token) :=
  let step (st : Nat × List Token × List (List Token)) (t : Token) :=
    let (depth, cur, done) := st
    match t with
    | .sym '(' => (depth + 1, t :: cur, done)
    | .sym ')' => (depth - 1, t :: cur, done)
    | .sym c => if c == sep && depth == 0 then (depth, [], cur.reverse :: done)
      else (depth, t :: cur, done)
    | _ => (depth, t :: cur, done)
  let (_, cur, done) := ts.foldl step (0, [], [])
  (cur.reverse :: done).reverse

/-- The tokens inside the bracket pair that opens the list, and the tokens after it. -/
def bracketed : List Token → Option (List Token × List Token)
  | .sym '(' :: rest =>
    let step (st : Nat × Option Nat) (it : Token × Nat) :=
      match st with
      | (_, some k) => (0, some k)
      | (depth, none) =>
        match it.1 with
        | .sym '(' => (depth + 1, none)
        | .sym ')' => if depth == 0 then (0, some it.2) else (depth - 1, none)
        | _ => (depth, none)
    match (rest.zipIdx.foldl step (0, none)).2 with
    | some k => some (rest.take k, rest.drop (k + 1))
    | none => none
  | _ => none

/-- The value of a numeric literal: digits alone give an integer when it fits in 64 bits,
anything else the nearest double. -/
def numberLiteral (neg : Bool) (s : String) : Value :=
  let cs := s.toList
  if cs.all Char.isDigit then integerValue neg (digitValue cs)
  else match decimalParts cs with
    | some (mant, e) => .real (nearestOfDecimal neg mant e)
    | none => .null

/-- The value of a literal of one token, or of a signed number. -/
def atom : List Token → Except Fault Value
  | [.number s] => .ok (numberLiteral false s)
  | [.sym '-', .number s] => .ok (numberLiteral true s)
  | [.sym '+', .number s] => .ok (numberLiteral false s)
  | [.str s] => .ok (.text s)
  | [t] =>
    if t.isWord "NULL" then .ok .null
    else if t.isWord "TRUE" then .ok (.int 1)
    else if t.isWord "FALSE" then .ok (.int 0)
    else .error (.malformed ((t.name?).getD ""))
  | t :: _ => .error (.malformed ((t.name?).getD ""))
  | [] => .error (.malformed "")

/-- The value of a literal, possibly in one pair of brackets. -/
def literal (ts : List Token) : Except Fault Value :=
  match ts with
  | .sym '(' :: rest =>
    match rest.reverse with
    | .sym ')' :: inner => atom inner.reverse
    | _ => .error (.malformed "(")
  | _ => atom ts

/-- What the constraints of a column definition say. -/
structure Constraints where
  primaryKey : Bool := false
  notNull : Bool := false
  default : Value := .null

/-- Words that open a column constraint, and so end the declared type. -/
def constraintWords : List String :=
  ["CONSTRAINT", "PRIMARY", "NOT", "NULL", "UNIQUE", "CHECK", "DEFAULT", "COLLATE",
    "REFERENCES", "GENERATED", "AS"]

/-- Read the constraints of a column, a token or a bracket group at a time; the fuel bounds the
steps. -/
def readConstraints : Nat → List Token → Constraints → Except Fault Constraints
  | 0, _, k => .ok k
  | _, [], k => .ok k
  | fuel + 1, t :: rest, k =>
    if t.isWord "PRIMARY" then readConstraints fuel rest { k with primaryKey := true }
    else if t.isWord "NOT" then
      match rest with
      | u :: more =>
        if u.isWord "NULL" then readConstraints fuel more { k with notNull := true }
        else readConstraints fuel rest k
      | [] => .ok k
    else if t.isWord "DEFAULT" then
      match rest with
      | .sym '(' :: _ =>
        match bracketed rest with
        | some (inner, more) => do
          let v ← literal ([.sym '('] ++ inner ++ [.sym ')'])
          readConstraints fuel more { k with default := v }
        | none => .error (.malformed "(")
      | .sym c :: n :: more =>
        if c == '-' || c == '+' then do
          let v ← atom [.sym c, n]
          readConstraints fuel more { k with default := v }
        else .error (.malformed (String.ofList [c]))
      | u :: more => do
        let v ← atom [u]
        readConstraints fuel more { k with default := v }
      | [] => .error (.malformed "")
    else if t == .sym '(' then
      match bracketed (t :: rest) with
      | some (_, more) => readConstraints fuel more k
      | none => .error (.malformed "(")
    else readConstraints fuel rest k

/-- The declared type names a key column only when it is exactly `INTEGER`. -/
def isKeyType (declared : String) : Bool := sameName declared "INTEGER"

/-- A column from its definition: name, declared type words with an optional size, then
constraints. -/
def columnDef : List Token → Except Fault Column
  | [] => .error (.malformed ")")
  | t :: rest =>
    match t.name? with
    | none => .error (.malformed "")
    | some name => do
      let isTypeWord (u : Token) : Bool :=
        match u with
        | .word w => !constraintWords.any (sameName w)
        | _ => false
      let typeWords := rest.takeWhile isTypeWord
      let afterWords := rest.drop typeWords.length
      let afterType :=
        if typeWords.isEmpty then afterWords
        else match bracketed afterWords with
          | some (_, more) => more
          | none => afterWords
      let declared := " ".intercalate (typeWords.filterMap Token.name?)
      let k ← readConstraints (afterType.length + 1) afterType {}
      return { name, declared, notNull := k.notNull, default := k.default,
               key := k.primaryKey && isKeyType declared }

/-- Words that open a table constraint in the list of column definitions. -/
def tableConstraintWords : List String := ["CONSTRAINT", "PRIMARY", "UNIQUE", "CHECK", "FOREIGN"]

/-- A definition in the list is a table constraint rather than a column. -/
def isTableConstraint : List Token → Bool
  | u :: _ => tableConstraintWords.any u.isWord
  | [] => false

/-- The single column a table constraint `PRIMARY KEY (c)` names, if it is one. -/
def tableKey? : List Token → Option String
  | p :: k :: rest =>
    if p.isWord "PRIMARY" && k.isWord "KEY" then
      match bracketed rest with
      | some ([c], _) => c.name?
      | some (c :: u :: _, _) => if u.isWord "ASC" || u.isWord "DESC" then c.name? else none
      | _ => none
    else none
  | _ => none

/-- Mark the column that a table constraint makes the key, when its type allows. -/
def markKey (cols : List Column) (name : String) : List Column :=
  cols.map fun c => if sameName c.name name && isKeyType c.declared then { c with key := true } else c
/-- A statement read from a script. -/
inductive Statement where
  /-- create a table, unless `ifMissing` and it exists -/
  | createTable (table : Table) (ifMissing : Bool)
  /-- add rows of values, for the named columns or for all of them -/
  | insert (table : String) (names : Option (List String)) (rows : List (List Value))
  /-- a statement that leaves the store as it is -/
  | other
deriving Inhabited

/-- The name of a table, possibly after a schema name and a point; the tokens after it. -/
def tableName : List Token → Except Fault (String × List Token)
  | _ :: .sym '.' :: u :: rest =>
    match u.name? with
    | some n => .ok (n, rest)
    | none => .error (.malformed ".")
  | t :: rest =>
    match t.name? with
    | some n => .ok (n, rest)
    | none => .error (.malformed "")
  | [] => .error (.malformed "")

/-- A table from the tokens after `CREATE TABLE`. -/
def createStatement (ts : List Token) : Except Fault Statement := do
  let (ifMissing, ts) := match ts with
    | i :: n :: e :: rest =>
      if i.isWord "IF" && n.isWord "NOT" && e.isWord "EXISTS" then (true, rest) else (false, ts)
    | _ => (false, ts)
  let (name, rest) ← tableName ts
  match bracketed rest with
  | some (body, _) =>
    let parts := splitTop ',' body
    let cols ← (parts.filter (fun p => !isTableConstraint p)).mapM columnDef
    let keys := (parts.filter isTableConstraint).filterMap tableKey?
    let cols := keys.foldl markKey cols
    return .createTable { name, columns := cols } ifMissing
  | none => .error (.malformed name)

/-- The names listed in brackets. -/
def nameList (ts : List Token) : Except Fault (List String) :=
  (splitTop ',' ts).mapM fun p =>
    match p with
    | [t] =>
      match t.name? with
      | some n => .ok n
      | none => .error (.malformed "")
    | _ => .error (.malformed ",")

/-- Rows of literals: bracket groups separated by commas. -/
def valueRows (ts : List Token) : Except Fault (List (List Value)) :=
  (splitTop ',' ts).mapM fun group =>
    match bracketed group with
    | some (inner, []) => (splitTop ',' inner).mapM literal
    | _ => .error (.malformed ",")

/-- An insertion from the tokens after `INSERT INTO`. -/
def insertStatement (ts : List Token) : Except Fault Statement := do
  let (name, rest) ← tableName ts
  let (names, rest) ← match rest with
    | .sym '(' :: _ =>
      match bracketed rest with
      | some (inner, more) => do pure (some (← nameList inner), more)
      | none => .error (.malformed "(")
    | _ => pure (none, rest)
  match rest with
  | v :: more =>
    if v.isWord "VALUES" then return .insert name names (← valueRows more)
    else .error (.malformed ((v.name?).getD ""))
  | [] => .error (.malformed "")

/-- A statement from its tokens. -/
def statement : List Token → Except Fault Statement
  | [] => .ok .other
  | c :: rest =>
    if c.isWord "CREATE" then
      let rest := match rest with
        | t :: more => if t.isWord "TEMP" || t.isWord "TEMPORARY" then more else t :: more
        | [] => []
      match rest with
      | t :: more => if t.isWord "TABLE" then createStatement more else .ok .other
      | [] => .error (.malformed "")
    else if c.isWord "INSERT" || c.isWord "REPLACE" then
      let rest := match rest with
        | o :: _ :: more => if o.isWord "OR" then more else rest
        | _ => rest
      match rest with
      | i :: more => if i.isWord "INTO" then insertStatement more else .error (.malformed "")
      | [] => .error (.malformed "")
    else .ok .other

namespace Database

/-- Carry out one statement. -/
def apply (db : Database) : Statement → Except Fault Database
  | .createTable t ifMissing => db.create t ifMissing
  | .insert name names rows => do
    let t ← db.find name
    let t ← rows.foldlM (fun t r => do
      let (t', _) ← match names with
        | some ns => t.insertNamed ns r
        | none => t.insertAll r
      pure t') t
    return db.put t
  | .other => .ok db

/-- Carry out the statements of a script in order, stopping at the first fault. -/
def runScript (db : Database) (script : String) : Except Fault Database := do
  let ts ← tokenize script
  (splitTop ';' ts).foldlM (fun db st => do db.apply (← statement st)) db

end Database

end LevelCross.Store
