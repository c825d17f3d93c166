import WebSupervisor.Text

/-! Address texts: the part of the host language's URL splitting that the
supervisor uses, and the address functions of `uia.py` and `child_spawn.py`. -/

namespace WebSupervisor

/-- A letter of a pattern that ignores case. The long s folds to an s. -/
private def sameLetter (letter c : Char) : Bool :=
  c == letter || c == letter.toUpper || (letter == 's' && c == 'ſ')

/-- The text after a match of `^https?://`, ignoring case. -/
private def dropScheme : List Char → List Char
  | text@(h :: t₁ :: t₂ :: p :: rest) =>
    if sameLetter 'h' h && sameLetter 't' t₁ && sameLetter 't' t₂ && sameLetter 'p' p then
      match rest with
      | ':' :: '/' :: '/' :: host => host
      | s :: ':' :: '/' :: '/' :: host => if sameLetter 's' s then host else text
      | _ => text
    else
      text
  | text => text

def normalizeUrl (value : String) : String :=
  rstripSlash (String.ofList (dropScheme (strip value).toList))

example : normalizeUrl " HTTPS://chat.example/c/1// " = "chat.example/c/1" := by decide +kernel

/-- The class `[0-9a-fA-F]`. -/
def isHex (c : Char) : Bool :=
  ('0' ≤ c && c ≤ '9') || ('a' ≤ c && c ≤ 'f') || ('A' ≤ c && c ≤ 'F')

def isHexDash (c : Char) : Bool := isHex c || c == '-'

/-- `re.search(r"/c/([0-9a-fA-F-]{16,})", value)`. -/
private def searchConversation : List Char → Option (List Char)
  | '/' :: 'c' :: '/' :: rest =>
    let found := rest.takeWhile isHexDash
    if 16 ≤ found.length then some found else searchConversation ('c' :: '/' :: rest)
  | _ :: rest => searchConversation rest
  | [] => none

def conversationIdFromUrl (value : String) : Option String :=
  (searchConversation value.toList).map String.ofList

/-- Lower case of the texts that the patterns here let through, which are ASCII. -/
def lower (text : String) : String := String.ofList (text.toList.map Char.toLower)

structure SplitResult where
  scheme : String
  netloc : String
  path : String
  query : String
  fragment : String
  deriving DecidableEq

/-- The characters whose compatibility form contains a delimiter. -/
def hidesDelimiter (c : Char) : Bool :=
  c.toNat ∈ [0x2047, 0x2048, 0x2049, 0x2100, 0x2101, 0x2105, 0x2106, 0x2a74, 0xfe13, 0xfe16, 0xfe55, 0xfe56,
    0xfe5f, 0xfe6b, 0xff03, 0xff0f, 0xff1a, 0xff1f, 0xff20]

def schemeChar (c : Char) : Bool := c.isAlphanum || c == '+' || c == '-' || c == '.'

/-- The scheme, lower case, and the rest. -/
def splitScheme (text : List Char) : List Char × List Char :=
  let start := text.takeWhile (· != ':')
  if start.length < text.length ∧ start.head?.any Char.isAlpha ∧ start.all schemeChar then
    (start.map Char.toLower, text.drop (start.length + 1))
  else
    ([], text)

def splitNetloc : List Char → List Char × List Char
  | '/' :: '/' :: rest =>
    let host := rest.takeWhile (fun c => c != '/' && c != '?' && c != '#')
    (host, rest.drop host.length)
  | text => ([], text)

/-- The text before a delimiter and the text after it. -/
def cutAt (delimiter : Char) (text : List Char) : List Char × List Char :=
  let start := text.takeWhile (· != delimiter)
  (start, text.drop (start.length + 1))

/-- `urlsplit`. There is no result where it raises; brackets, which only an
address of another kind may have, are taken as such a case. -/
def urlsplit (url : String) : Option SplitResult :=
  let text := (url.toList.dropWhile (·.toNat ≤ 0x20)).filter (fun c => c != '\t' && c != '\r' && c != '\n')
  let (scheme, text) := splitScheme text
  let (netloc, text) := splitNetloc text
  if netloc.any (fun c => c == '[' || c == ']' || hidesDelimiter c) then
    none
  else
    let (text, fragment) := cutAt '#' text
    let (path, query) := cutAt '?' text
    some
      { scheme := String.ofList scheme, netloc := String.ofList netloc, path := String.ofList path,
        query := String.ofList query, fragment := String.ofList fragment }

namespace SplitResult

private def userinfo (url : SplitResult) : List Char :=
  ((url.netloc.toList.reverse.dropWhile (· != '@')).drop 1).reverse

private def hostinfo (url : SplitResult) : List Char :=
  (url.netloc.toList.reverse.takeWhile (· != '@')).reverse

/-- `username or password`. -/
def hasCredentials (url : SplitResult) : Bool := url.userinfo.any (· != ':') || 1 < url.userinfo.length

def hostname (url : SplitResult) : String := lower (String.ofList (url.hostinfo.takeWhile (· != ':')))

private def portDigits (url : SplitResult) : List Char := (url.hostinfo.dropWhile (· != ':')).drop 1

/-- The port, which is none when there is no text for it, and the error when the
text is no port. -/
def port (url : SplitResult) : Except String (Option Nat) :=
  let digits := url.portDigits
  let value := digits.foldl (fun value c => value * 10 + (c.toNat - '0'.toNat)) 0
  if digits = [] then .ok none
  else if !digits.all Char.isDigit then
    .error ("Port could not be cast to integer value as " ++ quoted (String.ofList digits))
  else if 65535 < value then .error "Port out of range 0-65535"
  else .ok (some value)

/-- The non-empty segments of the path. -/
def segments (url : SplitResult) : List String :=
  ((url.path.toList.splitOn '/').filter (· ≠ [])).map String.ofList

end SplitResult

/-- The project id of a token `g-p-<32 hex digits>` with an optional slug. -/
def projectToken (token : String) : Option String :=
  match token.toList with
  | 'g' :: '-' :: 'p' :: '-' :: rest =>
    let id := rest.take 32
    if id.length = 32 ∧ id.all isHex ∧ (rest.length = 32 ∨ 33 < rest.length ∧ (rest.drop 32).head? = some '-') then
      some (lower (String.ofList id))
    else
      none
  | _ => none

/-- `_CONVERSATION_SEGMENT`. -/
def conversationSegment (segment : String) : Bool :=
  8 ≤ segment.toList.length && segment.toList.all isHexDash

/-- The project id and whether the path ends in `project`. -/
def projectParts (url : String) : Except String (String × Bool) :=
  match urlsplit (strip url) with
  | none => .error "invalid web project URL"
  | some parsed => do
    if parsed.scheme ≠ "https" ∨ parsed.hostname ≠ "chatgpt.com" then
      .error "web project URL must use https://chatgpt.com"
    if parsed.hasCredentials then
      .error "web project URL must not contain credentials or a custom port"
    if (← parsed.port).any (· ≠ 0) then
      .error "web project URL must not contain credentials or a custom port"
    if parsed.query ≠ "" ∨ parsed.fragment ≠ "" then
      .error "web project URL must not contain query parameters or a fragment"
    match parsed.segments with
    | "g" :: token :: rest =>
      if 1 < rest.length then
        .error "web project URL must point to one project root"
      match projectToken token with
      | none => .error "web project URL does not contain a supported g-p project id"
      | some id =>
        if rest ≠ [] ∧ rest ≠ ["project"] then
          .error "web project URL must not point to an existing conversation"
        .ok (id, rest ≠ [])
    | _ => .error "web project URL must point to one project root"

def webProjectId (url : String) : Except String String := (projectParts url).map Prod.fst

/-- The project and the conversation that an address names. -/
def conversationIdentity (url : String) : Option (String × String) :=
  match urlsplit (strip url) with
  | none => none
  | some parsed =>
    if parsed.scheme ≠ "https" ∨ parsed.hostname ≠ "chatgpt.com" then none
    else if parsed.query ≠ "" ∨ parsed.fragment ≠ "" then none
    else
      match parsed.segments with
      | ["g", token, "c", segment] =>
        match projectToken token with
        | none => none
        | some project => if conversationSegment segment then some (project, lower segment) else none
      | _ => none

def conversationUrlMatches (left right : String) : Bool :=
  (conversationIdentity left).isSome && conversationIdentity left == conversationIdentity right

example : conversationUrlMatches "https://chatgpt.com/g/g-p-0123456789abcdef0123456789abcdef-docs/c/0123abcd-0123abcd"
    "https://CHATGPT.com/g/g-p-0123456789ABCDEF0123456789abcdef/c/0123ABCD-0123abcd/" = true := by
  decide +kernel

end WebSupervisor
