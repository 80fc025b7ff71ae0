import RCSdk.Lib.ShellPieces
import RCSdk.Spec.CurlLog

/-!
# Replaying a logged request

The command that `appendURLRequest:` writes puts header fields in double quotes, the body in single
quotes, the method and the URL in none, and escapes nothing in them.

* `curl_replays_iff`: the shell reads it as the words that make the request exactly when nothing in
  them is special where it stands, and the body is not replaced by its default.
-/

namespace RCSdk

open Foundation Shell

/-- The body as a text, when it is one and not empty. -/
def LoggedRequest.body (request : LoggedRequest) : Option String :=
  (request.HTTPBody.bind NSData.utf8).filter (· != "")

/-- The words of the command that makes the request. -/
def LoggedRequest.curlWords (request : LoggedRequest) : List String :=
  ["curl", "-X", request.HTTPMethod.text] ++
    request.fields.flatMap (fun f => ["-H", f.1 ++ ": " ++ f.2]) ++
    request.body.elim [] (fun b => ["-d", b]) ++ [request.URL.text]

/-- A text that reads as it is at the place of a word: it is not empty, begins no comment and holds
nothing special. -/
def WordSafe (s : String) : Prop :=
  s ≠ "" ∧ s.toList.head? ≠ some '#' ∧ bareSafe s.toList = true

instance : DecidablePred WordSafe := fun s =>
  inferInstanceAs (Decidable (s ≠ "" ∧ s.toList.head? ≠ some '#' ∧ bareSafe s.toList = true))

/-! ## The pieces of the command -/

/-- A piece without quotes. -/
def barePiece (s : String) (hne : s ≠ "") (hend : unbroken s.toList = true) : Piece :=
  .bare s.toList (by simpa using hne) hend

/-- A header field in the command. -/
def headerPieces (f : String × String) : List Piece :=
  [barePiece "-H" (by decide) (by decide), .double (f.1 ++ ": " ++ f.2).toList]

/-- The command up to the body. -/
def opening (request : LoggedRequest) : List Piece :=
  [barePiece "curl" (by decide) (by decide), barePiece "-X" (by decide) (by decide),
    barePiece request.HTTPMethod.text request.HTTPMethod.ne_empty request.HTTPMethod.unbroken] ++
    request.fields.flatMap headerPieces

/-- A body in the command. -/
def bodyPieces (text : String) : List Piece :=
  [barePiece "-d" (by decide) (by decide), .single text.toList]

theorem safe_barePiece {s : String} {hne : s ≠ ""} {hend : unbroken s.toList = true} :
    (barePiece s hne hend).Safe ↔ WordSafe s := by
  simp only [barePiece, Piece.Safe, WordSafe]
  tauto

/-- **The opening is safe** when the method is, and every field in its double quotes. -/
theorem safe_opening (request : LoggedRequest) :
    (∀ p ∈ opening request, p.Safe) ↔
      WordSafe request.HTTPMethod.text ∧
        ∀ f ∈ request.fields, doubleSafe (f.1 ++ ": " ++ f.2).toList = true := by
  have hcurl : WordSafe "curl" := by decide
  have hX : WordSafe "-X" := by decide
  have hH : WordSafe "-H" := by decide
  have hfield : ∀ f : String × String,
      (∀ p ∈ headerPieces f, p.Safe) ↔ doubleSafe (f.1 ++ ": " ++ f.2).toList = true := by
    intro f
    rw [headerPieces, List.forall_mem_cons, List.forall_mem_singleton, safe_barePiece, and_iff_right hH]
    rfl
  unfold opening
  rw [List.forall_mem_append, List.forall_mem_cons, List.forall_mem_cons,
    List.forall_mem_singleton, safe_barePiece, safe_barePiece, safe_barePiece, and_iff_right hcurl,
    and_iff_right hX]
  refine and_congr_right fun _ => ?_
  simp only [List.mem_flatMap, forall_exists_index, and_imp]
  constructor
  · intro h f hf
    exact (hfield f).1 fun p hp => h p f hf hp
  · intro h p f hf hp
    exact (hfield f).2 (h f hf) p hp

theorem text_opening (request : LoggedRequest) :
    (opening request).map Piece.text =
      (["curl", "-X", request.HTTPMethod.text] ++
        request.fields.flatMap fun f => ["-H", f.1 ++ ": " ++ f.2]).map String.toList := by
  simp only [opening, List.map_append, List.map_flatMap]
  rfl

/-! ## Their words -/

/-- The end of the command is the URL, which may be missing. -/
theorem commandWords_url (url : NSURL) :
    commandWords (' ' :: url.text.toList) = some [url.text.toList] ↔ WordSafe url.text := by
  by_cases hne : url.text = ""
  · rw [hne, commandWords_blank]
    simp [commandWords, WordSafe]
  · have h := commandWords_iff [barePiece url.text hne url.unbroken] (Or.inl rfl) []
    have hline : line [barePiece url.text hne url.unbroken] = ' ' :: url.text.toList := by
      simp [line, barePiece, Piece.render]
    have htext : [barePiece url.text hne url.unbroken].map Piece.text = [url.text.toList] := rfl
    rw [List.append_nil, List.append_nil, hline, htext, List.forall_mem_singleton,
      safe_barePiece] at h
    rw [h]
    simp [commandWords]

/-- **The body is read as it is**, or as what stands in its place. -/
theorem commandWords_body {text b : String} {t : List Char} (ht : Parted t)
    (htext : text = b ∨ singleSafe text.toList = true) (ws : List (List Char)) :
    commandWords (line (bodyPieces text) ++ t) = some ("-d".toList :: b.toList :: ws) ↔
      (text = b ∧ singleSafe b.toList = true) ∧ commandWords t = some ws := by
  have hd : WordSafe "-d" := by decide
  have hdsafe : (barePiece "-d" (by decide) (by decide)).Safe := safe_barePiece.2 hd
  by_cases heq : text = b
  · subst heq
    have h := commandWords_iff (bodyPieces text) ht ws
    rw [bodyPieces, List.forall_mem_cons, List.forall_mem_singleton, and_iff_right hdsafe] at h
    rw [and_iff_right rfl]
    exact h
  · have hsafe : (Piece.single text.toList).Safe := htext.resolve_left heq
    have hline : line (bodyPieces text) ++ t =
        ' ' :: ((barePiece "-d" (by decide) (by decide)).render ++
          (' ' :: ((Piece.single text.toList).render ++ t))) := by
      simp [line, bodyPieces]
    rw [hline, commandWords_blank, Piece.commandWords_of_safe (Or.inr ⟨_, rfl⟩) hdsafe,
      commandWords_blank, Piece.commandWords_of_safe ht hsafe, Option.map_map]
    simp only [heq, false_and, iff_false, Option.map_eq_some_iff, not_exists, not_and]
    intro ws' _ h
    exact heq (String.toList_inj.1 (List.cons.inj (List.cons.inj h).2).1)

/-! ## The command that is written -/

/-- The header options are their pieces. -/
theorem headerString_toList (fields : List (String × String)) :
    (String.join (fields.map headerOption)).toList = line (fields.flatMap headerPieces) := by
  induction fields with
  | nil => rfl
  | cons f fields ih =>
    rw [List.map_cons, String.join_cons, String.toList_append, ih]
    simp [line, headerOption, headerPieces, barePiece, Piece.render]

section Foundation

variable [Foundation]

/-- What stands in the place of the body. -/
theorem bodyText_some {d : NSData} {b : String} (hd : d.utf8 = some b) (hb : b ≠ "") :
    bodyText (some d) =
      some (if isKindOfClass literalClass (decodedClass b) then b else "\t\t\t\tN/A") := by
  have hne : b.isEmpty = false := by simpa using hb
  unfold bodyText stringWithData RC_defaultValue
  simp only [Option.getD_some, hd, Option.map_some]
  cases isKindOfClass literalClass (decodedClass b) with
  | true => simp [NSObject.RC_isEmptyObject, hne, NSObject.string?]
  | false => simp [NSObject.string?]

/-- What the command has between the opening and the URL. -/
def bodyOption (request : LoggedRequest) : List Char :=
  if request.HTTPBody.any NSData.isNonempty then
    line (bodyPieces (printed (bodyText request.HTTPBody))) else []

/-- **The command is its pieces**, after a line and a tab. -/
theorem curlText_toList (request : LoggedRequest) :
    (curlText request).toList = '\n' :: '\t' ::
      (line (opening request) ++ (bodyOption request ++ ' ' :: request.URL.text.toList)) := by
  have hheader : ∀ s : String, (if s.length > 0 then s else "") = s := by
    intro s
    split_ifs with h
    · rfl
    · exact (String.length_eq_zero_iff.1 (by omega)).symm
  have hbody : (if request.HTTPBody.any NSData.isNonempty then
      " -d '" ++ printed (bodyText request.HTTPBody) ++ "'" else "").toList =
        bodyOption request := by
    unfold bodyOption
    split_ifs with h
    · simp [line, bodyPieces, barePiece, Piece.render]
    · rfl
  simp only [curlText, hheader, String.toList_append, headerString_toList, hbody]
  simp [line, opening, barePiece, Piece.render]

/-- The words of the command are those of its pieces. -/
theorem words_curlText_iff (request : LoggedRequest) (ws : List String) :
    words (curlText request) = some ws ↔
      commandWords (line (opening request) ++
        (bodyOption request ++ ' ' :: request.URL.text.toList)) = some (ws.map String.toList) := by
  rw [words_eq_some_iff, curlText_toList]
  have hskip : ∀ s : List Char, ('\n' :: '\t' :: ' ' :: 'c' :: s).dropWhile endsWord = 'c' :: s := by
    intro s
    simp [List.dropWhile, endsWord]
  have hopening : ∃ s, line (opening request) = ' ' :: 'c' :: s := ⟨_, rfl⟩
  obtain ⟨s, hs⟩ := hopening
  rw [hs, List.cons_append, List.cons_append, hskip, commandWords_blank]

/-- **When the command replays the request**: the method and the URL hold nothing special outside
quotes, the fields nothing special in double quotes, and the body no single quote; and the body is
the default, or a literal is of the class of its text. -/
structure Replayable (request : LoggedRequest) : Prop where
  method : WordSafe request.HTTPMethod.text
  fields : ∀ f ∈ request.fields, doubleSafe (f.1 ++ ": " ++ f.2).toList = true
  body : ∀ b ∈ request.body, singleSafe b.toList = true ∧
    (isKindOfClass literalClass (decodedClass b) = true ∨ b = "\t\t\t\tN/A")
  url : WordSafe request.URL.text

/-- The part of the body, with the URL after it. -/
theorem commandWords_bodyOption {request : LoggedRequest}
    (hutf8 : ∀ d ∈ request.HTTPBody, d.utf8.isSome = true) (ws : List (List Char)) {t : List Char}
    (ht : Parted t) :
    commandWords (bodyOption request ++ t) =
        some ((request.body.elim [] fun b => ["-d", b]).map String.toList ++ ws) ↔
      (∀ b ∈ request.body, singleSafe b.toList = true ∧
        (isKindOfClass literalClass (decodedClass b) = true ∨ b = "\t\t\t\tN/A")) ∧
        commandWords t = some ws := by
  cases hdata : request.HTTPBody with
  | none => simp [bodyOption, LoggedRequest.body, hdata]
  | some d =>
    obtain ⟨b, hb⟩ := Option.isSome_iff_exists.1 (hutf8 d hdata)
    by_cases hempty : b = ""
    · have hnone : bodyOption request = [] ∧ request.body = none := by
        simp [bodyOption, LoggedRequest.body, hdata, NSData.isNonempty, hb, hempty, Option.filter]
      rw [hnone.1, hnone.2]
      simp
    · have hbody : request.body = some b := by
        simp [LoggedRequest.body, hdata, hb, hempty, Option.filter]
      set text := if isKindOfClass literalClass (decodedClass b) then b else "\t\t\t\tN/A" with htext
      have hoption : bodyOption request = line (bodyPieces text) := by
        have hnonempty : request.HTTPBody.any NSData.isNonempty = true := by
          simp [hdata, NSData.isNonempty, hb, hempty]
        rw [bodyOption, if_pos hnonempty, hdata, bodyText_some hb hempty]
        rfl
      have heq : text = b ↔
          isKindOfClass literalClass (decodedClass b) = true ∨ b = "\t\t\t\tN/A" := by
        rw [htext]
        split_ifs with h
        · simp [h]
        · simp [h, eq_comm]
      have hsafe : text = b ∨ singleSafe text.toList = true := by
        rw [htext]
        split_ifs
        · exact Or.inl rfl
        · exact Or.inr (by decide)
      have h := commandWords_body ht hsafe ws
      rw [heq, and_comm (b := singleSafe b.toList = true)] at h
      rw [hoption, hbody]
      simpa using h

/-- **The shell reads the command as the words that make the request exactly when these hold
nothing special where they stand.** -/
theorem curl_replays_iff (request : LoggedRequest)
    (hutf8 : ∀ d ∈ request.HTTPBody, d.utf8.isSome = true) :
    words (curlText request) = some request.curlWords ↔ Replayable request := by
  have hurl : Parted (' ' :: request.URL.text.toList) := Or.inr ⟨_, rfl⟩
  have hbody : Parted (bodyOption request ++ ' ' :: request.URL.text.toList) := by
    unfold bodyOption
    split_ifs
    · exact parted_line _ hurl
    · exact hurl
  rw [words_curlText_iff, LoggedRequest.curlWords, List.append_assoc, List.map_append,
    ← text_opening, commandWords_iff _ hbody, List.map_append, List.map_singleton,
    commandWords_bodyOption hutf8 _ hurl, commandWords_url, safe_opening]
  constructor
  · rintro ⟨⟨hmethod, hfields⟩, hbody, hurl⟩
    exact ⟨hmethod, hfields, hbody, hurl⟩
  · rintro ⟨hmethod, hfields, hbody, hurl⟩
    exact ⟨⟨hmethod, hfields⟩, hbody, hurl⟩

end Foundation

/-- A request with a query of two parameters. -/
def queryRequest : LoggedRequest where
  service := RCService.plain none
  originRequestParams := none
  URL := ⟨"http://a.b/c?x=1&y=2", by decide⟩
  HTTPMethod := ⟨"GET", by decide, by decide⟩
  allHTTPHeaderFields := none
  HTTPBody := none
  actualRequestParams := none

/-- The shell ends the command of a query at its first `&`. -/
theorem query_not_replayed :
    words (curlText queryRequest) = none ∧
      queryRequest.curlWords = ["curl", "-X", "GET", "http://a.b/c?x=1&y=2"] := by
  decide +kernel

/-- Double quotes guard a semicolon, and single quotes guard a dollar sign and double quotes. -/
theorem post_replayed :
    words (curlText ⟨⟨RCService.plain none, none⟩, ⟨"http://a.b/c", by decide⟩,
      ⟨"POST", by decide, by decide⟩, some ⟨[("Accept", "text/plain; q=1")], by decide⟩,
      some ⟨some "say \"$x\"", none⟩, none⟩) =
        some ["curl", "-X", "POST", "-H", "Accept: text/plain; q=1", "-d", "say \"$x\"",
          "http://a.b/c"] :=
  (curl_replays_iff _ (by decide)).2
    ⟨by decide, by decide, by decide, by decide⟩

end RCSdk
