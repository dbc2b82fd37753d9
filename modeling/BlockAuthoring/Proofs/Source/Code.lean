import BlockAuthoring.Proofs.Source.Agreement

/-!
# Code comes back

The service sends a file as its bytes in base64, in lines. Whatever text the bytes write, and
wherever the lines end, asking for the code of a block gives this text and no other: no line end is
changed, and nothing is trimmed.
-/

namespace BlockAuthoring

open Text

/-- The reply is a file, and its content is this text: the bytes of the text in base64, with gaps
anywhere between the letters. -/
inductive Reply.Sends (text : String) : Reply → Prop where
  | file {body letters : String} {file : Json}
      (read : Json.parse (Repository.withoutMark body.toList) = .ok file)
      (type : file.member? "type" = some (.string "file"))
      (content : file.member? "content" = some (.string letters))
      (spread : Base64.Spread (Base64.encode (Utf8.encode text.toList)) letters.toList) :
      Sends text (.answer 200 body)

namespace Repository

variable {r : Repository} {replies : Replies} {before : List Request} {request : Request}
  {path folder name text : String}

/-- What is sent is read. -/
theorem fileText_of_spread {file : Json} {letters : String}
    (htype : file.member? "type" = some (.string "file"))
    (hcontent : file.member? "content" = some (.string letters))
    (hspread : Base64.Spread (Base64.encode (Utf8.encode text.toList)) letters.toList) :
    fileText path file = .ok text := by
  have hdata := hspread.filter_eq (Base64.filter_encode _)
  have hascii := hspread.ascii (Base64.ascii_encode _)
  have htext : textOf path letters = .ok text := by
    rw [textOf_eq_ok hascii hdata (Utf8.decode_encode text.toList), String.ofList_toList]
  exact fileText_eq_ok htype hcontent htext

theorem run_codeIn (hrequest : r.request (codePath folder name) = .ok request)
    (hsends : (replies.behind before request).Sends text) :
    ((r.codeIn folder name).run replies).run.run before = (.ok text, before ++ [request]) := by
  rw [codeIn, Asking.run_bind, Asking.run_tryCatch, run_contents hrequest]
  generalize replies.behind before request = reply at hsends
  cases hsends with
  | file read type content spread =>
    rw [contentsOf_read read, ← fileText_of_spread type content spread]
    exact Asking.run_lift _ _

/-- **Code comes back as it was sent.** Where a repository asks for the code of a block, by its name
or as it is listed, and the reply sends a text, this text is the code; nothing else is asked for. -/
theorem code_of_sent (r : Repository) (replies : Replies) (before : List Request)
    (request : Request) (text : String)
    (hsends : (replies.behind before request).Sends text) :
    (∀ name, r.request (r.blocksPath ++ "/" ++ name ++ "/" ++ name ++ ".js") = .ok request →
      ((r.code name).run replies).run.run before = (.ok text, before ++ [request]))
    ∧ ∀ (b : BlockInfo) (name : String), b.name = .string name →
      r.request (b.path ++ "/" ++ name ++ ".js") = .ok request →
      ((r.codeOf b).run replies).run.run before = (.ok text, before ++ [request]) := by
  constructor
  · intro name hrequest
    apply run_codeIn _ hsends
    rw [← hrequest, codePath, BlockInfo.codeFile, blockPath, ← String.append_assoc]
  · intro b name hname hrequest
    rw [codeOf, hname]
    apply run_codeIn _ hsends
    rw [← hrequest, codePath, BlockInfo.codeFile, ← String.append_assoc]
    rfl

/-- The content of a short file, in lines that end inside of quads and between the padding. -/
def brokenLines : String := "w6\nkN\r\nC g=\n=\n"

/-- Whatever is asked for, this file is sent. -/
def sendingLines : Replies :=
  ⟨fun _ _ => .answer 200 (Reply.bodyOf (.object
    [("type", .string "file"), ("content", .string brokenLines)]))⟩

theorem sends_brokenLines : (sendingLines.behind [] request).Sends "é\r\n" := by
  have hread := Reply.parse_bodyOf
    (Json.readable_pair (show "type" ≠ "content" by decide) "file" brokenLines)
  have hall : brokenLines.toList.all (fun c => decide (c.toNat < 0x80)) = true := by decide
  have hascii : ∀ c ∈ brokenLines.toList, c.toNat < 0x80 :=
    fun c hc => of_decide_eq_true (List.all_eq_true.mp hall c hc)
  have hletters : Base64.encode (Utf8.encode "é\r\n".toList)
      = brokenLines.toList.filter Base64.isData := by decide +kernel
  have hspread : Base64.Spread (Base64.encode (Utf8.encode "é\r\n".toList)) brokenLines.toList := by
    rw [hletters]
    exact .of_ascii hascii
  rw [← withoutMark_of_parse hread] at hread
  exact .file hread rfl rfl hspread

/-- The line end of the code is kept as it is. -/
theorem code_of_sent_brokenLines :
    ∃ request, acmeSite.request (acmeSite.blocksPath ++ "/" ++ "hero" ++ "/" ++ "hero" ++ ".js")
        = .ok request
      ∧ (sendingLines.behind [] request).Sends "é\r\n"
      ∧ ((acmeSite.code "hero").run sendingLines).run.run [] = (.ok "é\r\n", [request]) := by
  obtain ⟨request, hrequest, -⟩ := acmeSite_reaches.request (getLast?_baseUrl _ _)
  have hpath : acmeSite.codePathOf "hero"
      = acmeSite.blocksPath ++ "/" ++ "hero" ++ "/" ++ "hero" ++ ".js" := by decide
  rw [hpath] at hrequest
  obtain ⟨hname, -⟩ :=
    code_of_sent acmeSite sendingLines [] request "é\r\n" sends_brokenLines
  exact ⟨request, hrequest, sends_brokenLines, hname "hero" hrequest⟩

end Repository

end BlockAuthoring
