import FilterSql.Json.Printer
import FilterSql.Text.Ascii

/-!
# Requests and responses

The target of a request is a path, a whole URL, or only an authority such as `host:80`. A query or a
fragment may follow the path.
-/

namespace FilterSql.Service

namespace Target

def isSchemeChar (c : Char) : Bool := c.isAlphanum || c = '+' || c = '-' || c = '.'

def endsPath (c : Char) : Bool := c = '?' || c = '#'

def upToQuery (cs : List Char) : List Char := cs.takeWhile (!endsPath ·)

/-- The path after an authority. Where there is none it is the root. -/
def afterAuthority (cs : List Char) : List Char :=
  match upToQuery (cs.dropWhile fun c => c ≠ '/' && !endsPath c) with
  | [] => ['/']
  | path => path

/-- The path of a target; an authority alone has an empty one. -/
def pathChars (target : List Char) : List Char :=
  if target.head? = some '/' || target = ['*'] then upToQuery target
  else
    match target.dropWhile isSchemeChar with
    | ':' :: '/' :: '/' :: rest => afterAuthority rest
    | _ => []

def path (target : String) : String := String.ofList (pathChars target.toList)

end Target

abbrev Headers := List (String × String)

structure HttpRequest where
  method : String
  target : String
  headers : Headers
  body : ByteArray

inductive Content where
  | empty
  | json (value : Json)
  | html (text : String)

def Content.text : Content → String
  | empty => ""
  | json value => value.render
  | html text => text

structure HttpResponse where
  status : Nat
  headers : Headers
  content : Content

namespace HttpRequest

def header? (r : HttpRequest) (name : String) : Option String :=
  (r.headers.find? fun h => Text.sameIgnoringAsciiCase h.1 name).map Prod.snd

def path (r : HttpRequest) : String := Target.path r.target

end HttpRequest

namespace HttpResponse

def empty (status : Nat) : HttpResponse := ⟨status, [], .empty⟩

def json (status : Nat) (members : Json.Members) : HttpResponse :=
  ⟨status, [("content-type", "application/json")], .json (.object members)⟩

def html (text : String) : HttpResponse :=
  ⟨200, [("content-type", "text/html; charset=utf-8")], .html text⟩

def redirect (location : String) : HttpResponse := ⟨307, [("location", location)], .empty⟩

def withHeaders (r : HttpResponse) (more : Headers) : HttpResponse :=
  { r with headers := r.headers ++ more }

def withoutContent (r : HttpResponse) : HttpResponse := { r with content := .empty }

end HttpResponse

end FilterSql.Service
