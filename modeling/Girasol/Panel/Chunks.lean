import Girasol.Panel.Request
import Mathlib.Data.List.Infix

/-!
# Requests in chunks

However a stream is cut into reads, the request it spells is the same.
-/

namespace Girasol

open Foundation

namespace Panel

/-! ## The first occurrence -/

theorem findSubsequence_eq_some {haystack needle : List UInt8} {pos : Nat} :
    findSubsequence haystack needle = some pos ↔
      pos ≤ haystack.length ∧ needle <+: haystack.drop pos ∧
        ∀ j < pos, ¬ needle <+: haystack.drop j := by
  unfold findSubsequence
  rw [List.findIdx?_eq_some_iff_getElem]
  simp only [List.length_tails, List.getElem_tails, List.isPrefixOf_iff_prefix, Nat.lt_succ_iff]
  constructor
  · rintro ⟨hle, hhere, hbefore⟩
    exact ⟨hle, hhere, fun j hj => by simpa using hbefore j hj⟩
  · rintro ⟨hle, hhere, hbefore⟩
    exact ⟨hle, hhere, fun j hj => by simpa using hbefore j hj⟩

theorem end_le_of_occurs {buf needle : List UInt8} {pos : Nat} (hneedle : needle ≠ [])
    (h : needle <+: buf.drop pos) : pos + needle.length ≤ buf.length := by
  have hlength := h.length_le
  have hpos := List.length_pos_iff.mpr hneedle
  rw [List.length_drop] at hlength
  omega

theorem occurs_append {buf needle : List UInt8} {pos : Nat} (rest : List UInt8)
    (hend : pos + needle.length ≤ buf.length) :
    needle <+: (buf ++ rest).drop pos ↔ needle <+: buf.drop pos := by
  rw [List.drop_append_of_le_length (by omega), List.prefix_iff_eq_take, List.prefix_iff_eq_take,
    List.take_append_of_le_length (by rw [List.length_drop]; omega)]

theorem findSubsequence_of_end {buf rest needle : List UInt8} {pos : Nat}
    (hfound : findSubsequence (buf ++ rest) needle = some pos)
    (hend : pos + needle.length ≤ buf.length) : findSubsequence buf needle = some pos := by
  obtain ⟨-, hhere, hbefore⟩ := findSubsequence_eq_some.mp hfound
  refine findSubsequence_eq_some.mpr ⟨by omega, (occurs_append rest hend).mp hhere, ?_⟩
  intro j hj hoccurs
  exact hbefore j hj ((occurs_append rest (by omega)).mpr hoccurs)

theorem findSubsequence_of_short {buf rest needle : List UInt8} {pos : Nat} (hneedle : needle ≠ [])
    (hfound : findSubsequence (buf ++ rest) needle = some pos)
    (hshort : buf.length < pos + needle.length) : findSubsequence buf needle = none := by
  cases hbuf : findSubsequence buf needle with
  | none => rfl
  | some j =>
      obtain ⟨-, hhere, -⟩ := findSubsequence_eq_some.mp hbuf
      have hend := end_le_of_occurs hneedle hhere
      obtain ⟨-, -, hbefore⟩ := findSubsequence_eq_some.mp hfound
      exact absurd ((occurs_append rest hend).mpr hhere) (hbefore j (by omega))

/-! ## What a stream spells -/

def HeadersEnd (bytes : List UInt8) (pos : Nat) : Prop :=
  headerEnd <+: bytes.drop pos ∧ ∀ j < pos, ¬ headerEnd <+: bytes.drop j

def headerField (line : String) : Option (String × String) :=
  (splitOnce line ':').map fun (k, v) => (toAsciiLowercase (trim k), trim v)

def headerValue (name : String) (headerLines : List String) : Option String :=
  ((headerLines.filterMap headerField).filter fun field => field.1 == name).getLast?.map Prod.snd

def announcedLength (headerLines : List String) : Nat :=
  match headerValue "content-length" headerLines with
  | some value => (parseUnsigned (2 ^ 64) value).toOption.getD 0
  | none => 0

def headLines (bytes : List UInt8) (pos : Nat) : List String :=
  lines (fromUtf8Lossy (bytes.take pos))

def bodyLength (bytes : List UInt8) (pos : Nat) : Nat := announcedLength (headLines bytes pos).tail

/-- The request that a stream spells whose headers end at a position. -/
def requestOf (bytes : List UInt8) (pos : Nat) : Option Request :=
  match (headLines bytes pos).head?.map splitWhitespace with
  | some (method :: rawPath :: _) =>
      some
        { method := method
          path := ((rawPath.toList.splitOn '?').head?.map String.ofList).getD ""
          auth := headerValue "authorization" (headLines bytes pos).tail
          body := (bytes.drop (pos + 4)).take (bodyLength bytes pos) }
  | _ => none

/-- The headers end within 64 KiB, and a body of at most 256 KiB is there in full. -/
structure Complete (bytes : List UInt8) (pos : Nat) : Prop where
  headers : HeadersEnd bytes pos
  small : pos + 4 ≤ 64 * 1024
  limit : bodyLength bytes pos ≤ 256 * 1024
  body : pos + 4 + bodyLength bytes pos ≤ bytes.length

/-! ## The headers -/

theorem findSubsequence_of_headersEnd {bytes : List UInt8} {pos : Nat}
    (h : HeadersEnd bytes pos) : findSubsequence bytes headerEnd = some pos := by
  have hend := end_le_of_occurs (by decide) h.1
  exact findSubsequence_eq_some.mpr ⟨by omega, h.1, h.2⟩

private theorem headerValue_concat (name : String) (headerLines : List String) (line : String) :
    headerValue name (headerLines ++ [line]) =
      match headerField line with
      | some (k, v) => if k = name then some v else headerValue name headerLines
      | none => headerValue name headerLines := by
  unfold headerValue
  rw [List.filterMap_append, List.filter_append]
  cases hfield : headerField line with
  | none => simp [hfield]
  | some field =>
      obtain ⟨k, v⟩ := field
      by_cases hk : k = name <;> simp [hfield, hk]

private theorem foldl_readHeader (headerLines : List String) :
    headerLines.foldl readHeader {} =
      ⟨headerValue "authorization" headerLines, announcedLength headerLines⟩ := by
  induction headerLines using List.reverseRecOn with
  | nil => rfl
  | append_singleton headerLines line ih =>
      rw [List.foldl_append, ih, List.foldl_cons, List.foldl_nil]
      unfold announcedLength
      simp only [headerValue_concat, readHeader, headerField]
      cases splitOnce line ':' with
      | none => rfl
      | some field =>
          obtain ⟨k, v⟩ := field
          simp only [Option.map_some]
          by_cases hauth : toAsciiLowercase (trim k) = "authorization"
          · simp only [hauth, if_true]
            rfl
          · by_cases hlength : toAsciiLowercase (trim k) = "content-length"
            · simp only [hlength, if_true]
              rfl
            · simp only [hauth, hlength, if_false]

private theorem readHead_chunks (buf : List UInt8) {chunks : List (List UInt8)}
    (later : List StreamRead) {pos : Nat} (hnonempty : ∀ chunk ∈ chunks, chunk ≠ [])
    (hfound : findSubsequence (buf ++ chunks.flatten) headerEnd = some pos)
    (hsmall : pos + 4 ≤ 64 * 1024) (hbuf : buf.length < pos + 4) :
    ∃ read rest, chunks = read ++ rest ∧ pos + 4 ≤ (buf ++ read.flatten).length ∧
      readHead buf (chunks.map .data ++ later) =
        some (buf ++ read.flatten, pos, rest.map .data ++ later) := by
  induction chunks generalizing buf with
  | nil =>
      obtain ⟨-, hhere, -⟩ := findSubsequence_eq_some.mp hfound
      have hend := end_le_of_occurs (by decide) hhere
      rw [List.flatten_nil, List.append_nil] at hend
      exact absurd hend (by change ¬ pos + 4 ≤ _; omega)
  | cons chunk chunks ih =>
      obtain ⟨hchunk, hrest⟩ := List.forall_mem_cons.mp hnonempty
      have hempty : chunk.isEmpty = false := by simpa using hchunk
      rw [List.flatten_cons, ← List.append_assoc] at hfound
      rw [List.map_cons, List.cons_append, readHead, hempty]
      by_cases hend : pos + 4 ≤ (buf ++ chunk).length
      · rw [findSubsequence_of_end hfound hend]
        exact ⟨[chunk], chunks, rfl, by simpa using hend, by simp⟩
      · have hshort : (buf ++ chunk).length < pos + headerEnd.length := by
          change _ < pos + 4
          omega
        rw [findSubsequence_of_short (by decide) hfound hshort]
        obtain ⟨read, rest, hsplit, hread, heq⟩ := ih _ hrest hfound hshort
        refine ⟨chunk :: read, rest, by rw [hsplit, List.cons_append], ?_, ?_⟩
        · rwa [List.flatten_cons, ← List.append_assoc]
        · rw [List.flatten_cons, ← List.append_assoc, ← heq]
          have hlimit : ¬ 64 * 1024 < (buf ++ chunk).length := by omega
          simp only [Bool.false_eq_true, if_false, hlimit]

/-! ## The body -/

private theorem readBody_chunks {n : Nat} {body : List UInt8} {chunks : List (List UInt8)}
    (later : List StreamRead) (hnonempty : ∀ chunk ∈ chunks, chunk ≠ [])
    (hlong : n ≤ (body ++ chunks.flatten).length) :
    ∃ found, readBody n body (chunks.map .data ++ later) = some found ∧
      found.take n = (body ++ chunks.flatten).take n := by
  induction chunks generalizing body with
  | nil =>
      rw [List.flatten_nil, List.append_nil] at hlong ⊢
      cases later with
      | nil => exact ⟨body, rfl, rfl⟩
      | cons read later => exact ⟨body, by simp [readBody, Nat.not_lt.mpr hlong], rfl⟩
  | cons chunk chunks ih =>
      obtain ⟨hchunk, hrest⟩ := List.forall_mem_cons.mp hnonempty
      have hempty : chunk.isEmpty = false := by simpa using hchunk
      rw [List.flatten_cons, ← List.append_assoc] at hlong ⊢
      rw [List.map_cons, List.cons_append, readBody]
      split
      case isTrue hshort =>
        obtain ⟨found, hfound, htake⟩ := ih hrest hlong
        exact ⟨found, by simpa [hempty] using hfound, htake⟩
      case isFalse hfull =>
        refine ⟨body, rfl, ?_⟩
        rw [List.append_assoc, List.take_append_of_le_length (Nat.le_of_not_lt hfull)]

/-! ## The request -/

private theorem readRequest_eq (reads : List StreamRead) :
    readRequest reads =
      (readHead [] reads).bind fun (buf, pos, reads) =>
        match (headLines buf pos).head?.map splitWhitespace with
        | some (method :: rawPath :: _) =>
            if 256 * 1024 < bodyLength buf pos then none
            else
              (readBody (bodyLength buf pos) (buf.drop (pos + 4)) reads).map fun body =>
                { method := method
                  path := ((rawPath.toList.splitOn '?').head?.map String.ofList).getD ""
                  auth := headerValue "authorization" (headLines buf pos).tail
                  body := body.take (bodyLength buf pos) }
        | _ => none := by
  unfold readRequest headLines bodyLength
  refine congrArg (Option.bind _) (funext fun (buf, pos, reads) => ?_)
  dsimp only
  unfold headLines
  cases lines (fromUtf8Lossy (buf.take pos)) with
  | nil => rfl
  | cons requestLine headerLines =>
      simp only [List.head?_cons, Option.map_some, List.tail_cons]
      generalize splitWhitespace requestLine = parts
      match parts with
      | [] | [_] => rfl
      | method :: rawPath :: _ =>
          simp only [foldl_readHeader]
          by_cases hlimit : 256 * 1024 < announcedLength headerLines
          · simp only [hlimit, if_true]
          · simp only [hlimit, if_false]
            cases readBody (announcedLength headerLines) (buf.drop (pos + 4)) reads <;> rfl

private theorem readRequest_of_complete {chunks : List (List UInt8)} {pos : Nat}
    (h : Complete chunks.flatten pos) (later : List StreamRead)
    (hnonempty : ∀ chunk ∈ chunks, chunk ≠ []) :
    readRequest (chunks.map .data ++ later) = requestOf chunks.flatten pos := by
  have hfound := findSubsequence_of_headersEnd h.headers
  obtain ⟨read, rest, rfl, hread, hhead⟩ :=
    readHead_chunks [] later hnonempty hfound h.small (by simp)
  rw [List.nil_append] at hread hhead
  have htake : read.flatten.take pos = (read ++ rest).flatten.take pos := by
    rw [List.flatten_append, List.take_append_of_le_length (by omega)]
  have hlines : headLines read.flatten pos = headLines (read ++ rest).flatten pos := by
    rw [headLines, htake, headLines]
  have hlength : bodyLength read.flatten pos = bodyLength (read ++ rest).flatten pos := by
    rw [bodyLength, hlines, bodyLength]
  have hdrop : (read ++ rest).flatten.drop (pos + 4) =
      read.flatten.drop (pos + 4) ++ rest.flatten := by
    rw [List.flatten_append, List.drop_append_of_le_length hread]
  have hbody : bodyLength (read ++ rest).flatten pos ≤
      (read.flatten.drop (pos + 4) ++ rest.flatten).length := by
    rw [← hdrop, List.length_drop]
    have := h.body
    omega
  obtain ⟨found, hfoundBody, hsame⟩ := readBody_chunks later
    (fun chunk hchunk => hnonempty chunk (List.mem_append_right read hchunk)) hbody
  rw [readRequest_eq, hhead, Option.bind_some]
  dsimp only
  simp only [hlines, hlength, Nat.not_lt.mpr h.limit, if_false, hfoundBody, Option.map_some,
    hsame, ← hdrop, requestOf]

private theorem length_body_of_complete {bytes : List UInt8} {pos : Nat} (h : Complete bytes pos)
    {req : Request} (hreq : requestOf bytes pos = some req) :
    req.body.length = bodyLength bytes pos := by
  unfold requestOf at hreq
  split at hreq
  · cases hreq
    have := h.body
    rw [List.length_take, List.length_drop]
    omega
  · cases hreq

def postBytes : List UInt8 :=
  utf8 "POST /api/panel/keys/helius?x=1 HTTP/1.1\r\nContent-Length: 2\r\n\r\n{}trailing"

private theorem complete_postBytes : Complete postBytes 59 where
  headers := ⟨by decide +kernel, by decide +kernel⟩
  small := by decide
  limit := by decide +kernel
  body := by decide +kernel

end Panel

end Girasol
