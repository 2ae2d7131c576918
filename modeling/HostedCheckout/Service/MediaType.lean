/-!
# Media types

A media type is a type and a subtype, perhaps with a suffix after a plus sign,
and parameters.  Documents are sent as `application/json`, or as any subtype
of `application` with the suffix `json`.
-/

namespace HostedCheckout.MediaType

/-- Characters of which types, subtypes and names of parameters are made. -/
def isToken (character : Char) : Bool :=
  character.isAlphanum || "!#$%&'*+-.^_\x60|~".toList.contains character

/-- Characters that may stand between quotes. -/
def isQuotable (character : Char) : Bool :=
  0x1F < character.toNat && character.toNat != 0x7F

/-- Whether a text is a list of parameters; every parameter takes at least one
character, which bounds the recursion. -/
def areParameters : Nat → List Char → Bool
  | 0, _ => true
  | bound + 1, text =>
      let next := fun after : List Char =>
        match after with
        | [] => true
        | ';' :: more => areParameters bound more
        | _ => false
      match text.dropWhile (· == ' ') with
      | [] => true
      | parameter =>
          let name := parameter.takeWhile isToken
          match name, parameter.dropWhile isToken with
          | _ :: _, '=' :: '"' :: first :: inside =>
              let inner := fun character => isQuotable character && character != '"'
              match inside.dropWhile inner with
              | '"' :: after => isQuotable first && next (after.dropWhile (· == ' '))
              | _ => false
          | _ :: _, '=' :: value =>
              (value.dropWhile isToken == [] || value.takeWhile isToken != [])
                && next (value.dropWhile isToken)
          | _, _ => false

/-- The subtype without its suffix, and the suffix, which is what follows the
last plus sign that does not come first. -/
def splitSuffix (subtype : List Char) : List Char × Option (List Char) :=
  let reversed := subtype.reverse
  match reversed.dropWhile (· ≠ '+') with
  | _ :: first :: base => ((first :: base).reverse, some (reversed.takeWhile (· ≠ '+')).reverse)
  | _ => (subtype, none)

/-- Whether a content type announces a JSON document. -/
def isJson (contentType : String) : Bool :=
  let text := contentType.toList
  let kind := text.takeWhile isToken
  match text.dropWhile isToken with
  | '/' :: rest =>
      let subtype := rest.takeWhile isToken
      let lower := fun name : List Char => String.ofList (name.map Char.toLower)
      let (base, suffix) := splitSuffix subtype
      let parametersFit :=
        match rest.dropWhile isToken with
        | [] => true
        | ';' :: parameters => subtype != [] && areParameters (parameters.length + 1) parameters
        | _ => false
      lower kind == "application" && (lower base == "json" || suffix.any (lower · == "json"))
        && parametersFit && text.all (fun character => character.toNat < 0x7F)
  | _ => false

end HostedCheckout.MediaType
