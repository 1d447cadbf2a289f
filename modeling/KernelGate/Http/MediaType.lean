/-!
# Media types

Whether a content type says that a body is JSON: its type is `application`, and its subtype, or the
suffix behind the last plus sign, is `json`. Parameters do not count, but they must be well formed.
-/

namespace KernelGate.MediaType

/-- Characters of names and plain values. -/
def isToken (c : Char) : Bool :=
  c.isAlphanum || "!#$%&'*+-.^_|~".toList.contains c || c.toNat = 0x60

/-- Characters between quotation marks. -/
def isQuotable (c : Char) : Bool := 0x1F < c.toNat && c.toNat < 0x7F

/-- Whether a text is a list of parameters, each behind a semicolon. -/
def wellFormed : (fuel : Nat) → List Char → Bool
  | 0, _ => false
  | fuel + 1, cs =>
    match cs.dropWhile (· = ' ') with
    | [] => true
    | cs =>
      if (cs.takeWhile isToken).isEmpty then false
      else
        match cs.dropWhile isToken with
        | '=' :: '"' :: first :: rest =>
          let tail := rest.dropWhile fun c => isQuotable c && c ≠ '"'
          if !isQuotable first then false
          else
            match tail with
            | '"' :: rest =>
              match rest.dropWhile (· = ' ') with
              | [] => true
              | ';' :: rest => wellFormed fuel rest
              | _ => false
            | _ => false
        | ['=', '"'] => false
        | '=' :: rest =>
          match rest.dropWhile isToken with
          | [] => true
          | ';' :: behind =>
            if (rest.takeWhile isToken).isEmpty then false else wellFormed fuel behind
          | _ => false
        | _ => false

/-- Subtype and suffix of a name: the suffix stands behind the last plus sign that has something in
front of it. -/
def splitSuffix (name : List Char) : List Char × Option (List Char) :=
  let behind := (name.reverse.takeWhile (· ≠ '+')).reverse
  let front := name.take (name.length - behind.length - 1)
  if behind.length = name.length || front.isEmpty then (name, none) else (front, some behind)

/-- Whether a content type says that a body is JSON. -/
def isJson (text : String) : Bool :=
  let cs := text.toList
  let kind := cs.takeWhile isToken
  match cs.dropWhile isToken with
  | '/' :: rest =>
    let name := rest.takeWhile isToken
    let params := match rest.dropWhile isToken with
      | [] => true
      | ';' :: behind => !name.isEmpty && wellFormed (behind.length + 1) behind
      | _ => false
    let lower := fun (cs : List Char) => String.ofList (cs.map Char.toLower)
    let (subtype, suffix) := splitSuffix name
    params && lower kind = "application" &&
      (lower subtype = "json" || suffix.map lower = some "json")
  | _ => false

end KernelGate.MediaType
