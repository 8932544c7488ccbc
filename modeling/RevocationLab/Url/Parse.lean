/-
**Reading and joining URLs.**

A text with a scheme is a URL of its own; one without is read against a base.  Dots in a path are
resolved, slashes may be backslashes in special schemes, and blanks at the ends and line breaks
anywhere do not count.

Main definitions:

* `Url.parse` — the URL that a text writes;
* `Url.join` — the URL that a text writes against a base.
-/

import RevocationLab.Url.Basic

set_option autoImplicit false

namespace RevocationLab

namespace Url

/-! ### The ends of a text -/

/-- The text without blanks and controls at its ends, and without tabs and line breaks. -/
def clean (s : String) : List Char :=
  let inner := ((s.toList.dropWhile (· ≤ ' ')).reverse.dropWhile (· ≤ ' ')).reverse
  inner.filter fun c => !(c == '\t' || c == '\n' || c == '\r')

/-! ### Schemes -/

/-- The characters of a scheme after the first one. -/
def isSchemeChar (c : Char) : Bool := c.isAlphanum || c == '+' || c == '-' || c == '.'

/-- The scheme in front of a colon, in lowercase, and the text after the colon. -/
def splitScheme? (s : List Char) : Option (String × List Char) :=
  let name := s.takeWhile isSchemeChar
  match s.dropWhile isSchemeChar with
  | ':' :: r =>
      if (name.head?.map Char.isAlpha).getD false then
        some (String.ofList (name.map Char.toLower), r)
      else none
  | _ => none

/-! ### Queries and fragments -/

/-- The query and the fragment of a text that starts with one of their marks or is empty. -/
def queryAndFragment (kind : SchemeKind) (s : List Char) : Option String × Option String :=
  let set := if kind.isSpecial then inSpecialQuery else inQuery
  let fragmentOf : List Char → Option String
    | '#' :: r => some (String.ofList (encodeWith inFragment r))
    | _ => none
  match s with
  | '?' :: r =>
      (some (String.ofList (encodeWith set (r.takeWhile (· != '#')))),
        fragmentOf (r.dropWhile (· != '#')))
  | s => (none, fragmentOf s)

/-- Whether a character ends a path. -/
def endsPath (c : Char) : Bool := c == '?' || c == '#'

/-! ### Paths -/

/-- Whether a character separates segments. -/
def isSlash (kind : SchemeKind) (c : Char) : Bool := c == '/' || (c == '\\' && kind.isSpecial)

/-- The segments of a text up to the end of its path. -/
def splitSegments (kind : SchemeKind) : List Char → List (List Char)
  | [] => [[]]
  | c :: r =>
      if endsPath c then [[]]
      else if isSlash kind c then [] :: splitSegments kind r
      else match splitSegments kind r with
        | [] => [[c]]
        | p :: ps => (c :: p) :: ps

/-- A segment with each escaped dot as a dot. -/
def plainDots : List Char → List Char
  | '%' :: '2' :: c :: r =>
      if c = 'e' ∨ c = 'E' then '.' :: plainDots r else '%' :: plainDots ('2' :: c :: r)
  | c :: r => c :: plainDots r
  | [] => []

/-- Whether a segment is a drive: a letter and a colon, or a bar if `bar` allows it. -/
def isDrive (bar : Bool) : List Char → Bool
  | [c, d] => c.isAlpha && (d == ':' || (bar && d == '|'))
  | _ => false

/-- The segments without the last one; a drive alone stays. -/
def shorten (kind : SchemeKind) (path : List String) : List String :=
  match kind, path with
  | .file, [s] => if isDrive false s.toList then [s] else []
  | _, p => p.dropLast

/-- A segment as it is kept. -/
def segmentText (kind : SchemeKind) (isFirst : Bool) (s : List Char) : String :=
  if kind = .file ∧ isFirst ∧ isDrive true s then String.ofList (s.take 1 ++ [':'])
  else String.ofList (encodeWith inPath s)

/-- The path with further segments: dots stay where they are, two dots go up, and both leave an
empty segment at the end. -/
def addSegments (kind : SchemeKind) : List String → List (List Char) → List String
  | path, [] => path
  | path, [s] =>
      let dots := plainDots s
      if dots = ['.', '.'] then shorten kind path ++ [""]
      else if dots = ['.'] then path ++ [""]
      else path ++ [segmentText kind (path = []) s]
  | path, s :: r =>
      let dots := plainDots s
      if dots = ['.', '.'] then addSegments kind (shorten kind path) r
      else if dots = ['.'] then addSegments kind path r
      else addSegments kind (path ++ [segmentText kind (path = []) s]) r

/-- The path of a file without empty segments in front. -/
def dropEmpty : List String → List String
  | "" :: s :: r => dropEmpty (s :: r)
  | p => p

/-- The path from `start` on with the segments of a text. -/
def pathFrom (kind : SchemeKind) (start : List String) (s : List Char) : Path :=
  let p := addSegments kind start (splitSegments kind s)
  .segments (if kind = .file then dropEmpty p else p)

/-- The text after the path at its front. -/
def afterPath (s : List Char) : List Char := s.dropWhile fun c => !endsPath c

/-- The text after a slash at its front. -/
def dropSlash (kind : SchemeKind) : List Char → List Char
  | c :: r => if isSlash kind c then r else c :: r
  | [] => []

/-- The path after an authority; a special scheme always has one. -/
def pathAfterAuthority (kind : SchemeKind) (s : List Char) : Path :=
  if !kind.isSpecial && (match s with | [] => true | c :: _ => endsPath c) then .segments []
  else pathFrom kind [] (dropSlash kind s)

/-! ### Authorities -/

/-- Whether a character ends an authority. -/
def endsAuthority (kind : SchemeKind) (c : Char) : Bool := isSlash kind c || endsPath c

/-- The text before the last at sign and the text after it. -/
def splitAt? (s : List Char) : Option (List Char × List Char) :=
  let host := (s.reverse.takeWhile (· != '@')).reverse
  if host.length = s.length then none else some (s.take (s.length - host.length - 1), host)

/-- The user name and the password; an empty password is none. -/
def userInfo (s : List Char) : String × Option String :=
  let name := s.takeWhile (· != ':')
  let password := (s.dropWhile (· != ':')).drop 1
  (String.ofList (encodeWith inUserInfo name),
    if password = [] then none else some (String.ofList (encodeWith inUserInfo password)))

/-- The host in front of a colon outside of brackets, and the text from the colon on. -/
def splitHost (bracket : Bool) : List Char → List Char × List Char
  | [] => ([], [])
  | c :: r =>
      if c = ':' ∧ !bracket then ([], c :: r)
      else
        let (h, rest) := splitHost (if c = '[' then true else if c = ']' then false else bracket) r
        (c :: h, rest)

/-- The port after a colon; the one that the scheme has anyway is left out. -/
def portOf (scheme : String) : List Char → Except ParseError (Option Nat)
  | ':' :: r =>
      if ¬ r.all Char.isDigit then .error .badPort
      else
        let n := Ascii.decimalValue r
        if 65535 < n then .error .badPort
        else if r = [] ∨ defaultPort? scheme = some n then .ok none
        else .ok (some n)
  | _ => .ok none

/-- The authority that a text writes. -/
def authorityOf (scheme : String) (kind : SchemeKind) (s : List Char) :
    Except ParseError Authority := do
  let (user, password, hostAndPort) := match splitAt? s with
    | none => ("", none, s)
    | some (info, rest) =>
        let (user, password) := userInfo info
        (user, password, rest)
  let (host, rest) := splitHost false hostAndPort
  if host.isEmpty && (kind.isSpecial || !rest.isEmpty || (splitAt? s).isSome) then
    throw .emptyHost
  else
    let host ← if kind.isSpecial then Host.special host else Host.other host
    return { user, password, host, port := ← portOf scheme rest }

/-! ### URLs -/

/-- A URL with the query and the fragment of the text after its path. -/
def close (kind : SchemeKind) (scheme : String) (authority : Option Authority) (location : Path)
    (rest : List Char) : Url :=
  let (query, fragment) := queryAndFragment kind rest
  ⟨scheme, authority, location, query, fragment⟩

/-- The URL whose authority starts a text. -/
def withAuthority (scheme : String) (kind : SchemeKind) (s : List Char) :
    Except ParseError Url := do
  let front := s.takeWhile fun c => !endsAuthority kind c
  let rest := s.dropWhile fun c => !endsAuthority kind c
  let authority ← authorityOf scheme kind front
  return close kind scheme (some authority) (pathAfterAuthority kind rest) (afterPath rest)

/-- The URL with the fragment of a text in place of its own. -/
def withFragment (base : Url) (s : List Char) : Url :=
  { base with fragment := some (String.ofList (encodeWith inFragment (s.drop 1))) }

/-- The segments of a URL's path. -/
def segmentList (u : Url) : List String :=
  match u.location with
  | .segments list => list
  | .opaqueText _ => []

/-- The URL of a file whose host starts a text. -/
def fileWithHost (s : List Char) : Except ParseError Url := do
  let front := s.takeWhile fun c => !endsAuthority .file c
  let rest := s.dropWhile fun c => !endsAuthority .file c
  if isDrive true front then
    return close .file "file" (some { host := "" }) (pathFrom .file [] s) (afterPath s)
  else
    let host ← if front = [] then pure "" else Host.special front
    let location := pathAfterAuthority .file rest
    let hasDrive : Bool := match location with
      | .segments (first :: _) => isDrive false first.toList
      | _ => false
    let host := if host == "localhost" || hasDrive then "" else host
    return close .file "file" (some { host }) location (afterPath rest)

/-- Whether a text starts with a drive as its first segment. -/
def startsWithDrive (s : List Char) : Bool :=
  isDrive true (s.takeWhile fun c => !endsAuthority .file c)

/-- The URL of a file, read against another one if there is one. -/
def fileUrl (base : Option Url) (s : List Char) : Except ParseError Url :=
  let noHost : Option Authority := some { host := "" }
  match s with
  | c :: r =>
      if isSlash .file c then
        match r with
        | d :: t =>
            if isSlash .file d then fileWithHost t
            else
              let start := match base with
                | some b =>
                    if startsWithDrive r then (noHost, [])
                    else match b.segmentList.head? with
                      | some first =>
                          if isDrive false first.toList then (noHost, [first])
                          else (b.authority, [])
                      | none => (b.authority, [])
                | none => (noHost, [])
              .ok (close .file "file" start.1 (pathFrom .file start.2 r) (afterPath r))
        | [] => .ok (close .file "file" ((base.bind Url.authority) <|> noHost) (.segments [""]) [])
      else match base with
        | none => .ok (close .file "file" noHost (pathFrom .file [] s) (afterPath s))
        | some b =>
            if c = '#' then .ok (withFragment b s)
            else if c = '?' then .ok (close .file "file" b.authority b.location s)
            else if startsWithDrive s then
              .ok (close .file "file" noHost (pathFrom .file [] s) (afterPath s))
            else
              .ok (close .file "file" b.authority
                (pathFrom .file (shorten .file b.segmentList) s) (afterPath s))
  | [] =>
      match base with
      | none => .ok ⟨"file", noHost, .segments [""], none, none⟩
      | some b => .ok { b with fragment := none }

/-- The URL that a text without a scheme writes against a base. -/
def relativeTo (base : Url) (s : List Char) : Except ParseError Url :=
  let kind := schemeKind base.scheme
  match s with
  | [] => .ok { base with fragment := none }
  | '#' :: _ => .ok (withFragment base s)
  | '?' :: _ => .ok (close kind base.scheme base.authority base.location s)
  | '/' :: '/' :: r => withAuthority base.scheme kind r
  | c :: r =>
      if c = '/' ∨ c = '\\' then
        if (r.head?.map fun d => d == '/' || d == '\\').getD false then
          withAuthority base.scheme kind (r.dropWhile fun d => d == '/' || d == '\\')
        else
          .ok (close kind base.scheme base.authority (pathFrom kind [] r) (afterPath r))
      else
        .ok (close kind base.scheme base.authority
          (pathFrom kind base.segmentList.dropLast s) (afterPath s))

/-- The URL that the text after a scheme writes. -/
def afterScheme (base : Option Url) (scheme : String) (s : List Char) : Except ParseError Url :=
  match schemeKind scheme with
  | .file => fileUrl (base.filter fun b => b.scheme == "file") s
  | .special =>
      let slashes := s.takeWhile fun c => c == '/' || c == '\\'
      match base.filter fun b => b.scheme == scheme && slashes.length < 2 with
      | some b => relativeTo b s
      | none => withAuthority scheme .special (s.drop slashes.length)
  | .other =>
      match s with
      | '/' :: '/' :: r => withAuthority scheme .other r
      | '/' :: r => .ok (close .other scheme none (pathFrom .other [] r) (afterPath r))
      | _ =>
          let text := encodeWith inNone (s.takeWhile fun c => !endsPath c)
          .ok (close .other scheme none (.opaqueText (String.ofList text)) (afterPath s))

/-- The URL that a text writes, against a base if there is one. -/
def parseWith (base : Option Url) (text : String) : Except ParseError Url :=
  let s := clean text
  match splitScheme? s with
  | some (scheme, r) => afterScheme base scheme r
  | none =>
      match base with
      | none => .error .relativeWithoutBase
      | some b =>
          if s.head? = some '#' then .ok (withFragment b s)
          else if b.isOpaque then .error .relativeToOpaque
          else if b.scheme = "file" then fileUrl base s
          else relativeTo b s

/-- The URL that a text writes. -/
def parse (text : String) : Except ParseError Url := parseWith none text

/-- The URL that a text writes against a base. -/
def join (base : Url) (text : String) : Except ParseError Url := parseWith (some base) text

end Url

end RevocationLab
