import HostRouting.Json.Reader

/-!
# The payload of the read endpoint

The store answers a read with the document as a JSON string literal. A body that is no
such literal is taken as it is: trimmed, without one pair of quotes around it, and with
every backslash followed by `n` made a line feed.
-/
namespace HostRouting

/-- The text with each backslash and `n`, from left to right, as a line feed. -/
def unescapeLineFeeds : Text → Text
  | '\\' :: 'n' :: rest => '\n' :: unescapeLineFeeds rest
  | c :: rest => c :: unescapeLineFeeds rest
  | [] => []

/-- The text without one pair of double quotes around it. -/
def stripQuotePair (t : Text) : Text :=
  match t with
  | '\x22' :: rest => (['\x22'].isSuffixOf? rest).getD t
  | _ => t

def decodePayload (body : Text) : Text :=
  match Json.literalText? body with
  | some text => text
  | none => unescapeLineFeeds (stripQuotePair (Text.trim body))

end HostRouting
