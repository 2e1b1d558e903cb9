import DrivewayWatch.Net.Url

/-!
# Requests and replies

The exchanges that the program has with other servers.  What a server answers comes from outside: an
`Exchange` gives the reply to a request, or nothing if none arrives.  A request that cannot be sent
is never exchanged.
-/

namespace DrivewayWatch.Net

/-- What a request asks for. -/
inductive Method where
  | get
  | post
  deriving Repr, DecidableEq

/-- A request. -/
structure Request where
  method : Method
  url : String
  headers : List (String × String)
  body : String
  deriving Repr, DecidableEq

/-- A reply. -/
structure Reply where
  status : Nat
  body : Bytes
  deriving Repr, DecidableEq

abbrev Exchange : Type := Request → Option Reply

namespace Reply

def isSuccess (reply : Reply) : Bool :=
  200 ≤ reply.status && reply.status < 300

/-- Whether the reply says that the request failed. -/
def isError (reply : Reply) : Bool :=
  400 ≤ reply.status && reply.status < 600

end Reply

/-- Whether a text can be sent as the value of a header. -/
def isHeaderValue (text : String) : Bool :=
  text.toList.all fun c => (0x20 ≤ c.toNat && c.toNat != 0x7F) || c == '\t'

namespace Request

def isSendable (request : Request) : Bool :=
  ((Url.read? request.url).any (·.isHypertext)) && request.headers.all (isHeaderValue ·.2)

/-- The request itself, if it can be sent. -/
def sent? (request : Request) : Option Request :=
  if request.isSendable then some request else none

/-- The reply to a request, if it can be sent and a reply arrives. -/
def send (exchange : Exchange) (request : Request) : Option Reply :=
  request.sent?.bind exchange

end Request

def statusPhrases : List (Nat × String) :=
  [(100, "Continue"), (101, "Switching Protocols"), (102, "Processing"), (200, "OK"),
    (201, "Created"), (202, "Accepted"), (203, "Non Authoritative Information"),
    (204, "No Content"), (205, "Reset Content"), (206, "Partial Content"), (207, "Multi-Status"),
    (208, "Already Reported"), (226, "IM Used"), (300, "Multiple Choices"),
    (301, "Moved Permanently"), (302, "Found"), (303, "See Other"), (304, "Not Modified"),
    (305, "Use Proxy"), (307, "Temporary Redirect"), (308, "Permanent Redirect"),
    (400, "Bad Request"), (401, "Unauthorized"), (402, "Payment Required"), (403, "Forbidden"),
    (404, "Not Found"), (405, "Method Not Allowed"), (406, "Not Acceptable"),
    (407, "Proxy Authentication Required"), (408, "Request Timeout"), (409, "Conflict"),
    (410, "Gone"), (411, "Length Required"), (412, "Precondition Failed"),
    (413, "Payload Too Large"), (414, "URI Too Long"), (415, "Unsupported Media Type"),
    (416, "Range Not Satisfiable"), (417, "Expectation Failed"), (418, "I'm a teapot"),
    (421, "Misdirected Request"), (422, "Unprocessable Entity"), (423, "Locked"),
    (424, "Failed Dependency"), (426, "Upgrade Required"), (428, "Precondition Required"),
    (429, "Too Many Requests"), (431, "Request Header Fields Too Large"),
    (451, "Unavailable For Legal Reasons"), (500, "Internal Server Error"),
    (501, "Not Implemented"), (502, "Bad Gateway"), (503, "Service Unavailable"),
    (504, "Gateway Timeout"), (505, "HTTP Version Not Supported"),
    (506, "Variant Also Negotiates"), (507, "Insufficient Storage"), (508, "Loop Detected"),
    (510, "Not Extended"), (511, "Network Authentication Required")]

/-- A status code with the phrase that belongs to it. -/
def statusText (status : Nat) : String :=
  let phrase := (statusPhrases.lookup status).getD "<unknown status code>"
  Decimal.text status ++ " " ++ phrase

end DrivewayWatch.Net
