/-!
# Media types

A media type is a type and a subtype with a stroke between them, and perhaps parameters after a
semicolon.  The subtype may end in a suffix after a plus sign, which names the format that it is
spelled in.  Case does not matter.
-/

namespace FleetConsole.Http

structure MediaType where
  type : String
  subtype : String
  suffix : Option String
deriving DecidableEq

namespace MediaType

/-- The characters of a name. -/
def isToken (c : Char) : Bool := c.isAlphanum || "!#$%&'+-.^_`|~".toList.contains c

/-- The characters between quotes. -/
def isQuotedText (c : Char) : Bool := 31 < c.toNat && c.toNat ≠ 127

/-- Whether a text is what may follow a name of a parameter and its equals sign, up to the end or
the next semicolon, and so on.  `quoted` says that a value in quotes is under way, `closed` that one
has ended, `filled` that the value or name under way has a character, and `value` that it is a
value. -/
def isParameters (value quoted closed filled : Bool) : List Char → Bool
  | [] => if value then !quoted else !filled
  | c :: rest =>
      if closed then
        if c = ';' then isParameters false false false false rest
        else c = ' ' && isParameters true false true true rest
      else if quoted then
        if c = '"' && filled then isParameters true false true true rest
        else isQuotedText c && isParameters true true false true rest
      else if value then
        if c = '"' && !filled then isParameters true true false false rest
        else if c = ';' && filled then isParameters false false false false rest
        else isToken c && isParameters true false false true rest
      else if c = ' ' && !filled then isParameters false false false false rest
      else if c = '=' && filled then isParameters true false false false rest
      else isToken c && isParameters false false false true rest

/-- A subtype and its suffix, which follows the last plus sign that is not the first character. -/
def ofSubtype (type subtype : List Char) : MediaType :=
  let suffix := subtype.reverse.takeWhile (· ≠ '+')
  let stem := subtype.take (subtype.length - suffix.length - 1)
  if suffix.length < subtype.length && !stem.isEmpty then
    ⟨String.ofList type, String.ofList stem, some (String.ofList suffix.reverse)⟩
  else ⟨String.ofList type, String.ofList subtype, none⟩

/-- The media type that is the whole of a text. -/
def read? (text : String) : Option MediaType :=
  let text := text.toList.map Char.toLower
  let type := text.takeWhile isToken
  match text.drop type.length with
  | '/' :: rest =>
      let subtype := rest.takeWhile isToken
      if type.isEmpty || subtype.isEmpty then none
      else
        match rest.drop subtype.length with
        | [] => some (ofSubtype type subtype)
        | c :: rest =>
            if c = ';' && isParameters false false false false rest then
              some (ofSubtype type subtype)
            else none
  | _ => none

/-- Whether something of this type is spelled in JSON. -/
def isJson (media : MediaType) : Bool :=
  media.type = "application" && (media.subtype = "json" || media.suffix = some "json")

end MediaType

end FleetConsole.Http
