import ApiTools.Json.Literal

/-!
# Flaws of addresses

Why a text is no address of a request, with the sentence that says so.
-/

namespace ApiTools.Http.Url

/-- What is wrong with the text of an address. -/
inductive Flaw where
  /-- The text has too many characters. -/
  | tooLong
  /-- A part of the address has too many characters once it is encoded. -/
  | partTooLong
  /-- An ASCII control character stands at a place in the text. -/
  | control (c : Char) (place : Nat)
  /-- The host looks like four numbers and is no IPv4 address. -/
  | badIpv4 (host : String)
  /-- The host is in brackets and is no IPv6 address. -/
  | badIpv6 (host : String)
  /-- The host has characters beyond ASCII and is no name of a host. -/
  | badName (host : String)
  /-- The port is no integer. -/
  | badPort (port : String)
  /-- A path begins with two slashes where nothing comes before it. -/
  | doubleSlash
  /-- A path begins with a colon where nothing comes before it. -/
  | leadingColon
  /-- A path after a host does not begin with a slash. -/
  | noSlash
  deriving DecidableEq, Repr

/-- A text in quotes, as messages show it. -/
def quoted (text : String) : String :=
  String.ofList (Json.textLiteral text)

namespace Flaw

/-- The sentence that says what is wrong. -/
def message : Flaw → String
  | .tooLong => "URL too long"
  | .partTooLong => "URL component too long"
  | .control c place =>
    let shown := quoted (String.ofList [c])
    s!"Invalid non-printable ASCII character in URL, {shown} at position {place}."
  | .badIpv4 host => s!"Invalid IPv4 address: {quoted host}"
  | .badIpv6 host => s!"Invalid IPv6 address: {quoted host}"
  | .badName host => s!"Invalid IDNA hostname: {quoted host}"
  | .badPort port => s!"Invalid port: {quoted port}"
  | .doubleSlash => "Relative URLs cannot have a path starting with '//'"
  | .leadingColon => "Relative URLs cannot have a path starting with ':'"
  | .noSlash => "For absolute URLs, path must be empty or begin with '/'"

end Flaw

end ApiTools.Http.Url
