/-! # HTTP status codes

* **`Status`**: the status code of an answer;
* **`Status.isSuccess`**, **`Status.isClientError`**: the classes that matter here;
* **`Status.text`**: the code with its phrase, where the standards give it one. -/

namespace CatalogSearch

/-- **The status code of an answer.** -/
structure Status where
  code : Nat
  deriving DecidableEq, Repr

namespace Status

/-- The request succeeded. -/
def isSuccess (s : Status) : Bool := 200 ≤ s.code && s.code < 300

/-- The request was wrong. -/
def isClientError (s : Status) : Bool := 400 ≤ s.code && s.code < 500

/-- No status is both. -/
theorem not_isClientError_of_isSuccess {s : Status} (h : s.isSuccess = true) :
    s.isClientError = false := by
  simp only [isSuccess, isClientError, Bool.and_eq_true, decide_eq_true_eq] at *
  simp only [Bool.and_eq_false_iff, decide_eq_false_iff_not]
  omega

/-- The statuses whose answers carry no body. -/
def hasNoBody (s : Status) : Bool := s.code == 204 || s.code == 304

/-- The phrases of the status codes that have one. -/
def phrases : List (Nat × String) :=
  [ (100, "Continue"), (101, "Switching Protocols"), (102, "Processing"), (103, "Early Hints"),
    (200, "OK"), (201, "Created"), (202, "Accepted"), (203, "Non Authoritative Information"),
    (204, "No Content"), (205, "Reset Content"), (206, "Partial Content"), (207, "Multi-Status"),
    (208, "Already Reported"), (226, "IM Used"), (300, "Multiple Choices"),
    (301, "Moved Permanently"), (302, "Found"), (303, "See Other"), (304, "Not Modified"),
    (305, "Use Proxy"), (307, "Temporary Redirect"), (308, "Permanent Redirect"),
    (400, "Bad Request"), (401, "Unauthorized"), (402, "Payment Required"), (403, "Forbidden"),
    (404, "Not Found"), (405, "Method Not Allowed"), (406, "Not Acceptable"),
    (407, "Proxy Authentication Required"), (408, "Request Timeout"), (409, "Conflict"),
    (410, "Gone"), (411, "Length Required"), (412, "Precondition Failed"),
    (413, "Payload Too Large"), (414, "URI Too Long"), (415, "Unsupported Media Type"),
    (416, "Range Not Satisfiable"), (417, "Expectation Failed"), (418, "I'm a teapot"),
    (421, "Misdirected Request"), (422, "Unprocessable Entity"), (423, "Locked"),
    (424, "Failed Dependency"), (425, "Too Early"), (426, "Upgrade Required"),
    (428, "Precondition Required"), (429, "Too Many Requests"),
    (431, "Request Header Fields Too Large"), (451, "Unavailable For Legal Reasons"),
    (500, "Internal Server Error"), (501, "Not Implemented"), (502, "Bad Gateway"),
    (503, "Service Unavailable"), (504, "Gateway Timeout"), (505, "HTTP Version Not Supported"),
    (506, "Variant Also Negotiates"), (507, "Insufficient Storage"), (508, "Loop Detected"),
    (510, "Not Extended"), (511, "Network Authentication Required") ]

/-- The phrase of a status. -/
def phrase (s : Status) : String := (phrases.lookup s.code).getD "<unknown status code>"

/-- **A status in words**: the code and its phrase. -/
def text (s : Status) : String := toString s.code ++ " " ++ s.phrase

end Status

end CatalogSearch
