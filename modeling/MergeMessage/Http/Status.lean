import MergeMessage.Text.Basic

/-!
# Statuses of replies

A reply on the web has a status of three digits.  Those from 400 on say that the request failed,
through the fault of who asked or, from 500 on, of who was asked.

## Main definitions

* `Http.reason?` — what a status of failure means.
* `Http.failureOfStatus?` — what is said about a reply with a status of failure.
-/

namespace MergeMessage.Http

/-- The statuses of failure, with their meanings. -/
def reasons : List (Nat × String) := [
  (400, "Bad Request"), (401, "Unauthorized"), (402, "Payment Required"), (403, "Forbidden"),
  (404, "Not Found"), (405, "Method Not Allowed"), (406, "Not Acceptable"),
  (407, "Proxy Authentication Required"), (408, "Request Timeout"), (409, "Conflict"),
  (410, "Gone"), (411, "Length Required"), (412, "Precondition Failed"),
  (413, "Payload Too Large"), (414, "URI Too Long"), (415, "Unsupported Media Type"),
  (416, "Range Not Satisfiable"), (417, "Expectation Failed"), (418, "I'm a teapot"),
  (421, "Misdirected Request"), (422, "Unprocessable Entity"), (423, "Locked"),
  (424, "Failed Dependency"), (425, "Too Early"), (426, "Upgrade Required"),
  (428, "Precondition Required"), (429, "Too Many Requests"),
  (431, "Request Header Fields Too Large"), (451, "Unavailable For Legal Reasons"),
  (500, "Internal Server Error"), (501, "Not Implemented"), (502, "Bad Gateway"),
  (503, "Service Unavailable"), (504, "Gateway Timeout"), (505, "HTTP Version Not Supported"),
  (506, "Variant Also Negotiates"), (507, "Insufficient Storage"), (508, "Loop Detected"),
  (510, "Not Extended"), (511, "Network Authentication Required")]

/-- What a status of failure means. -/
def reason? (status : Nat) : Option Text := (reasons.lookup status).map String.toList

/-- A status of failure with its meaning. -/
def describe (status : Nat) : Text :=
  Text.ofNat status ++ ' ' :: (reason? status).getD "<unknown status code>".toList

/-- What is said about a reply from an address, if its status is one of failure. -/
def failureOfStatus? (address : Text) (status : Nat) : Option Text :=
  let said (who : String) : Text :=
    "HTTP status ".toList ++ who.toList ++ " error (".toList ++ describe status ++
      ") for url (".toList ++ address ++ [')']
  if 400 ≤ status && status < 500 then some (said "client")
  else if 500 ≤ status && status < 600 then some (said "server")
  else none

end MergeMessage.Http
