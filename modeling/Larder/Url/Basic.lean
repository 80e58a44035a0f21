import Larder.Url.Host

/-!
URLs.

`Url.parse` reads a text in the way web browsers do: blanks around it and line breaks in it do not
count, in the schemes of the web a backslash is a slash and the port that a scheme has anyway is
dropped, steps to the same or to the upper folder are carried out, and what may not stand in a path
or a query is percent-encoded.
-/

namespace Larder

/-- A URL in its parts, of which path and query are in the form in which they are sent. -/
structure Url where
  scheme : String
  username : String
  password : Option String
  host : Option String
  port : Option Nat
  path : String
  query : Option String
deriving DecidableEq, Repr

namespace Url

def defaultPort? (scheme : String) : Option Nat :=
  match scheme with
  | "http" | "ws" => some 80
  | "https" | "wss" => some 443
  | "ftp" => some 21
  | _ => none

def isWeb (scheme : String) : Bool :=
  (defaultPort? scheme).isSome

def cleaned (text : String) : List Char :=
  let outer := fun (c : Char) => c.toNat ≤ 0x20
  ((text.toList.dropWhile outer).reverse.dropWhile outer).reverse.filter fun c =>
    c != '\t' && c != '\n' && c != '\r'

def isSchemeChar (c : Char) : Bool :=
  c.isAlphanum || c == '+' || c == '-' || c == '.'

def scheme? (chars : List Char) : Option (String × List Char) :=
  let name := chars.takeWhile isSchemeChar
  match name.head?, chars.drop name.length with
  | some first, ':' :: rest =>
      if first.isAlpha then some (String.ofList (name.map Char.toLower), rest) else none
  | _, _ => none

def endsAuthority (web : Bool) (c : Char) : Bool :=
  c == '/' || c == '?' || c == '#' || (web && c == '\\')

def isEncodedInQuery (web : Bool) (c : Char) : Bool :=
  " \"#<>".toList.contains c || (web && c == '\'')

def isEncodedInPath (c : Char) : Bool :=
  " \"#<>?\x60\x7b\x7d".toList.contains c

def isEncodedInUser (c : Char) : Bool :=
  isEncodedInPath c || "/:;=@[\\]^|".toList.contains c

def userInfo (chars : List Char) : String × Option String :=
  let name := chars.takeWhile (· != ':')
  let encode := fun part => String.ofList (percentEncode isEncodedInUser part)
  (encode name,
    match chars.drop name.length with
    | _ :: secret => if secret.isEmpty then none else some (encode secret)
    | [] => none)

def splitUser (chars : List Char) : List Char × List Char :=
  let behind := (chars.reverse.takeWhile (· != '@')).reverse
  if behind.length = chars.length then ([], chars)
  else (chars.take (chars.length - behind.length - 1), behind)

/-- Splits the host from the port behind it; colons in brackets do not count. -/
def splitPort (bracket : Bool) : List Char → List Char × List Char
  | [] => ([], [])
  | c :: rest =>
      if c == ':' && !bracket then ([], c :: rest)
      else
        let (host, behind) := splitPort (c == '[' || (bracket && c != ']')) rest
        (c :: host, behind)

def readPort : List Char → Except UrlError (Option Nat)
  | [] | [':'] => .ok none
  | _ :: digits =>
      match Net.numberBelow? 65536 digits with
      | some port => .ok (some port)
      | none => .error .invalidPort

inductive Folder
  | same
  | upper
  | named

/-- The kind of a segment, in which a point may be percent-encoded. -/
def folderOf (segment : List Char) : Folder :=
  match String.ofList (segment.map Char.toLower) with
  | "." | "%2e" => .same
  | ".." | ".%2e" | "%2e." | "%2e%2e" => .upper
  | _ => .named

/-- Carries out the steps in a path's segments; `done` are those kept so far, last first. -/
def walk (done : List (List Char)) : List (List Char) → List (List Char)
  | [] => done.reverse
  | segment :: rest =>
      match folderOf segment with
      | .same => walk (if rest.isEmpty then [] :: done else done) rest
      | .upper => walk (if rest.isEmpty then [] :: done.drop 1 else done.drop 1) rest
      | .named => walk (percentEncode isEncodedInPath segment :: done) rest

def absolutePath (web : Bool) (chars : List Char) : String :=
  let chars := if web then chars.map fun c => if c == '\\' then '/' else c else chars
  let segments := walk [] (Text.parts '/' (chars.drop 1))
  String.ofList (segments.flatMap fun segment => '/' :: segment)

def pathAndQuery (web : Bool) (chars : List Char) : String × Option String :=
  let chars := chars.takeWhile (· != '#')
  let path := chars.takeWhile (· != '?')
  (if path.isEmpty then (if web then "/" else "") else absolutePath web path,
    match chars.drop path.length with
    | [] => none
    | _ :: query => some (String.ofList (percentEncode (isEncodedInQuery web) query)))

def afterSlashes (scheme : String) (chars : List Char) : Except UrlError Url := do
  let web := isWeb scheme
  let authority := chars.takeWhile fun c => !endsAuthority web c
  let (path, query) := pathAndQuery web (chars.drop authority.length)
  let (user, place) := splitUser authority
  let (name, behind) := splitPort false place
  let (username, password) := userInfo user
  let host ← if web && name.isEmpty then .error .emptyHost else Url.readHost web name
  if host.isEmpty && (!behind.isEmpty || !user.isEmpty) then throw .emptyHost
  let port ← readPort behind
  return { scheme, username, password, path, query
           host := some host
           port := if port == defaultPort? scheme then none else port }

def parse (text : String) : Except UrlError Url :=
  match scheme? (cleaned text) with
  | none => .error .relative
  | some (scheme, rest) =>
      if isWeb scheme then afterSlashes scheme (rest.dropWhile fun c => c == '/' || c == '\\')
      else
        match rest with
        | '/' :: '/' :: rest => afterSlashes scheme rest
        | _ =>
            let (path, query) := pathAndQuery false rest
            let path :=
              if rest.head? == some '/' then path
              else String.ofList (percentEncode (fun _ => false)
                (rest.takeWhile fun c => c != '?' && c != '#'))
            .ok ⟨scheme, "", none, none, none, path, query⟩

def target (url : Url) : String :=
  match url.query with
  | some query => url.path ++ "?" ++ query
  | none => url.path

end Url

end Larder
