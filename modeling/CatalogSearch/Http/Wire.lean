import CatalogSearch.Http.Network

/-! # HTTP on the wire

A request as the bytes that are sent, and an answer from all the bytes that come back until the
other side closes the connection.

* **`Url.requestBytes`**: the request for a URL;
* **`cutLine?`**: the first line of some bytes;
* **`Response.ofBytes?`**: the answer that some bytes are. -/

namespace CatalogSearch

/-! ## Requests -/

/-- The target of a request: path and query. -/
def Url.target (u : Url) : List Char :=
  let path := u.path.text
  (if path.isEmpty then ['/'] else path) ++ Url.markedText '?' u.query

/-- The host of a request without name and password, with its port if that is not the usual one. -/
def Url.hostText (u : Url) : List Char :=
  match u.requested.authority with
  | some a => a.text
  | none => []

/-- **The bytes of the request for a URL.** -/
def Url.requestBytes (agent : String) (u : Url) : List UInt8 :=
  let line (cs : List Char) : List Char := cs ++ ['\r', '\n']
  Text.Utf8.encode <|
    line ("GET ".toList ++ u.target ++ " HTTP/1.1".toList) ++
      line ("Host: ".toList ++ u.hostText) ++
      line ("User-Agent: ".toList ++ agent.toList) ++
      line "Accept: */*".toList ++
      line "Connection: close".toList ++
      line []

/-! ## Lines -/

namespace Response

/-- Bytes as characters of the same numbers. -/
def charsOf (bytes : List UInt8) : List Char := bytes.map fun b => Char.ofNat b.toNat

/-- A line without the carriage return at its end. -/
def dropReturn (cs : List Char) : List Char := if cs.getLast? = some '\r' then cs.dropLast else cs

/-- **The first line of some bytes**, without its end, and the bytes after it. -/
def cutLine? (bytes : List UInt8) : Option (List Char × List UInt8) :=
  match bytes.dropWhile (· != 10) with
  | [] => none
  | _ :: rest => some (dropReturn (charsOf (bytes.takeWhile (· != 10))), rest)

/-- A line takes at least its end. -/
theorem length_of_cutLine? {bytes rest : List UInt8} {line : List Char}
    (h : cutLine? bytes = some (line, rest)) : rest.length < bytes.length := by
  have hle := (List.dropWhile_sublist (l := bytes) (· != 10)).length_le
  unfold cutLine? at h
  split at h
  · exact absurd h (by simp)
  · next b r heq =>
    rw [heq, List.length_cons] at hle
    cases h
    omega

/-! ## Headers -/

/-- The name and the value of a header line. -/
def headerOfLine (line : List Char) : String × String :=
  (String.ofList (line.takeWhile (· != ':')),
    String.ofList (trimHeader ((line.dropWhile (· != ':')).drop 1)))

/-- The header lines up to the empty one, and the bytes after that. -/
def readHeaders (bytes : List UInt8) : Option (List (String × String) × List UInt8) :=
  match _ : cutLine? bytes with
  | none => none
  | some ([], rest) => some ([], rest)
  | some (c :: cs, rest) => (readHeaders rest).map fun r => (headerOfLine (c :: cs) :: r.1, r.2)
termination_by bytes.length
decreasing_by exact length_of_cutLine? ‹_›

/-- The status of a status line. -/
def statusOfLine? (line : List Char) : Option Status :=
  let code := ((line.dropWhile (· != ' ')).drop 1).takeWhile (· != ' ')
  (Text.readNat? code).map Status.mk

/-! ## Bodies -/

/-- The size of a chunk, in hexadecimal digits before any extension. -/
def chunkSize? (line : List Char) : Option Nat :=
  match trimHeader (line.takeWhile (· != ';')) with
  | [] => none
  | digits => Text.readDigits? Text.hexValue? 16 0 digits

/-- The body of some chunks, which end with an empty one; none if they break off. -/
def readChunks (bytes : List UInt8) : Option (List UInt8) :=
  match _ : cutLine? bytes with
  | none => none
  | some (line, rest) =>
    match chunkSize? line with
    | none => none
    | some 0 => some []
    | some size =>
      match _ : cutLine? (rest.drop size) with
      | some ([], more) => (readChunks more).map (rest.take size ++ ·)
      | _ => none
termination_by bytes.length
decreasing_by
  have h₁ := length_of_cutLine? ‹cutLine? bytes = _›
  have h₂ := length_of_cutLine? ‹cutLine? (rest.drop size) = _›
  simp only [List.length_drop] at h₂
  omega

/-- The first bytes, if there are that many. -/
def takeExactly (size : Nat) (bytes : List UInt8) : Option (List UInt8) :=
  if size ≤ bytes.length then some (bytes.take size) else none

/-- The coding of a body in chunks. -/
def isChunked (coding : List Char) : Bool := Text.sameLetters (String.ofList coding) "chunked"

/-- The body among the bytes after the headers: chunks, so many bytes as the headers say, or all. -/
def readBody (r : Response) (bytes : List UInt8) : Option (List UInt8) :=
  if r.status.hasNoBody then some []
  else if (r.header? "Transfer-Encoding").any isChunked then readChunks bytes
  else
    match (r.header? "Content-Length").bind Text.readNat? with
    | some size => takeExactly size bytes
    | none => some bytes

/-- **The answer that some bytes are**, if they reach up to its body. -/
def ofBytes? (bytes : List UInt8) : Option Response := do
  let (line, rest) ← cutLine? bytes
  let status ← statusOfLine? line
  let (headers, rest) ← readHeaders rest
  let r : Response := ⟨status, headers, none⟩
  return { r with body := r.readBody rest }

end Response

end CatalogSearch
