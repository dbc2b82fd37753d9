import BlockAuthoring.Proofs.Association
import BlockAuthoring.Proofs.Source.Contents
import BlockAuthoring.Proofs.Source.Listing
import BlockAuthoring.Proofs.Source.Transcript

/-!
# How asking the contents service ends

The service may reply anything, and it may not reply. A failure that says so carries the status of
the answer, and tells of something missing iff the answer does. Other failures come of answers that
are not of the form of contents, or of paths that cannot be asked for.
-/

namespace BlockAuthoring

/-- The status of a reply that is an answer. -/
def Reply.status? : Reply → Option Nat
  | .answer status _ => some status
  | _ => none

theorem Reply.eq_answer {reply : Reply} {status : Nat} (h : reply.status? = some status) :
    ∃ body, reply = .answer status body := by
  cases reply with
  | answer _ body =>
    cases h
    exact ⟨body, rfl⟩
  | _ => cases h

/-- The error has the status of the reply, and tells of something missing iff the reply does. -/
structure SourceError.Reports (e : SourceError) (reply : Reply) : Prop where
  status : e.status? = reply.status?
  missing : e.isMissing = true ↔ reply.status? = some 404

/-! ## Forms of answers -/

namespace Json

/-- The item of a listing has a name. -/
def IsItem (item : Json) : Prop := ∃ name, item.member? "name" = some (.string name)

/-- A text that base64 may be read from. -/
def IsAscii (content : Json) : Prop :=
  ∃ letters, content = .string letters ∧ ∀ c ∈ letters.toList, c.toNat < 0x80

/-- The value is a listing or a file, but not of the form of contents. -/
inductive IsMisshapen : Json → Prop where
  | item {items : List Json} {item : Json} (listed : item ∈ items) (nameless : ¬ item.IsItem) :
      IsMisshapen (.array items)
  | content {file content : Json} (type : file.member? "type" = some (.string "file"))
      (there : file.member? "content" = some content) (other : ¬ content.IsAscii) :
      IsMisshapen file

end Json

/-- The answer seems to be good, but what it says has not the form of contents. -/
inductive Reply.IsMalformed : Reply → Prop where
  | notJson {body : String} {e : Json.ReadError}
      (fault : Json.parse (Repository.withoutMark body.toList) = .error e) :
      IsMalformed (.answer 200 body)
  | misshapen {body : String} {v : Json}
      (read : Json.parse (Repository.withoutMark body.toList) = .ok v) (form : v.IsMisshapen) :
      IsMalformed (.answer 200 body)

namespace Repository

open Asking

variable {r : Repository} {first path : String} {seen : List Reply} {v : Json}

/-! ## Ends -/

/-- All replies are good answers. -/
def AllGood (seen : List Reply) : Prop := ∀ reply ∈ seen, reply.status? = some 200

/-- One of the replies says this. -/
def Told (seen : List Reply) (v : Json) : Prop :=
  ∃ body, .answer 200 body ∈ seen ∧ Json.parse (withoutMark body.toList) = .ok v

/-- A path is meant: the one that is asked for first, or that of a listed block. -/
inductive Means (r : Repository) (first : String) (seen : List Reply) : String → Prop where
  | first : Means r first seen first
  | listed {items : List Json} {item : Json} (told : Told seen (.array items))
      (listed : item ∈ items) : Means r first seen (r.blockPath (item.get "name").shown)

/-- Why asking may fail, by the replies that came. -/
inductive Fails (r : Repository) (first : String) : List Reply → SourceFailure → Prop where
  /-- The last reply is no good answer. The failure has its status, and only a 404 tells of
  something missing. -/
  | refused {seen : List Reply} {reply : Reply} {e : SourceError} (before : AllGood seen)
      (last : reply.status? ≠ some 200) (status : e.status? = reply.status?)
      (missing : e.isMissing = true ↔ reply.status? = some 404) :
      Fails r first (seen ++ [reply]) (.source e)
  /-- All answers are good, and something else lies there than what is asked for. -/
  | other {seen : List Reply} {e : SourceError} (good : AllGood seen) (status : e.status? = none)
      (there : e.isMissing = false) : Fails r first seen (.source e)
  /-- A path cannot be asked for. -/
  | address {seen : List Reply} {path : String} {fault : Malformation} (good : AllGood seen)
      (means : r.Means first seen path) (refuses : r.request path = .error fault) :
      Fails r first seen (.malformed fault)
  /-- An answer has not the form of contents. -/
  | malformed {seen : List Reply} {reply : Reply} {fault : Malformation} (good : AllGood seen)
      (replied : reply ∈ seen) (form : reply.IsMalformed) : Fails r first seen (.malformed fault)

theorem AllGood.concat {body : String} (h : AllGood seen) :
    AllGood (seen ++ [.answer 200 body]) := by
  intro reply hreply
  rcases List.mem_append.mp hreply with hreply | hreply
  · exact h reply hreply
  · rw [List.mem_singleton.mp hreply]
    rfl

theorem Told.mono {seen' : List Reply} (h : Told seen v) (hseen : seen <+: seen') :
    Told seen' v := by
  obtain ⟨body, hbody, hread⟩ := h
  exact ⟨body, hseen.mem hbody, hread⟩

theorem Fails.misshapen {fault : Malformation} (good : AllGood seen) (htold : Told seen v)
    (hform : v.IsMisshapen) : r.Fails first seen (.malformed fault) := by
  obtain ⟨body, hbody, hread⟩ := htold
  exact .malformed good hbody (.misshapen hread hform)

/-- Saying that a file is missing changes neither the status nor that something is missing. -/
theorem Fails.asMissingFile {e : SourceFailure} (h : r.Fails first seen e) (path : String) :
    r.Fails first seen (asMissingFile path e) := by
  cases h with
  | @refused seen reply e before last status missing =>
    cases e with
    | contentsMissing _ => exact .refused before last status missing
    | _ => exact .refused before last status missing
  | @other _ e good status there =>
    cases e with
    | contentsMissing _ => cases there
    | _ => exact .other good status there
  | address good means refuses => exact .address good means refuses
  | malformed good replied form => exact .malformed good replied form

/-! ## Asking for a path -/

/-- What is no good answer is why asking fails. -/
theorem contentsOf_bad (path : String) {reply : Reply} (h : reply.status? ≠ some 200) :
    ∃ e : SourceError, contentsOf path reply = .error (.source e) ∧ e.Reports reply := by
  cases reply with
  | timedOut detail => exact ⟨_, rfl, rfl, by simp [SourceError.isMissing, Reply.status?]⟩
  | unreachable detail => exact ⟨_, rfl, rfl, by simp [SourceError.isMissing, Reply.status?]⟩
  | answer status body =>
    by_cases hmissing : status = 404
    · subst hmissing
      exact ⟨_, rfl, rfl, by simp [SourceError.isMissing, Reply.status?]⟩
    · have hstatus : status ≠ 200 := by simpa [Reply.status?] using h
      refine ⟨.refused path status body, ?_, rfl, ?_⟩
      · rw [contentsOf, if_neg hmissing, if_pos hstatus]
      · simpa [SourceError.isMissing, Reply.status?] using hmissing

/-- What a reply says of a path is told by it, or it is why asking fails. -/
theorem contentsOf_ends (r : Repository) (first path : String) (hgood : AllGood seen)
    (reply : Reply) :
    (∃ v, contentsOf path reply = .ok v ∧ AllGood (seen ++ [reply]) ∧ Told (seen ++ [reply]) v)
      ∨ ∃ e, contentsOf path reply = .error e ∧ r.Fails first (seen ++ [reply]) e := by
  by_cases hbad : reply.status? ≠ some 200
  · obtain ⟨e, he, hreports⟩ := contentsOf_bad path hbad
    exact .inr ⟨.source e, he, .refused hgood hbad hreports.status hreports.missing⟩
  · obtain ⟨body, rfl⟩ := Reply.eq_answer (not_not.mp hbad)
    cases hread : Json.parse (withoutMark body.toList) with
    | ok v => exact .inl ⟨v, contentsOf_read hread, hgood.concat, body, by simp, hread⟩
    | error e =>
      refine .inr ⟨.malformed (.notJson e), ?_, .malformed hgood.concat (by simp) (.notJson hread)⟩
      simp only [contentsOf, hread, Except.mapError]
      rfl

theorem contents_ends (hgood : AllGood seen) (hmeans : r.Means first seen path) :
    Ends (r.contents path) seen (fun seen' v => AllGood seen' ∧ Told seen' v) (r.Fails first) := by
  intro replies before
  cases hrequest : r.request path with
  | error fault =>
    refine ⟨[], .inr ⟨.malformed fault, ?_, ?_⟩⟩
    · rw [run_contents_error hrequest, List.append_nil]
    · simpa [Replies.along] using Fails.address hgood hmeans hrequest
  | ok request =>
    refine ⟨[request], ?_⟩
    rw [run_contents hrequest]
    rcases contentsOf_ends r first path hgood (replies.behind before request) with
      ⟨v, hv, htold⟩ | ⟨e, he, hfails⟩
    · exact .inl ⟨v, by rw [hv], htold⟩
    · exact .inr ⟨e, by rw [he], hfails⟩

/-! ## Items -/

variable {item : Json} {items : List Json}

/-- Something is read off an item, unless it is none. -/
def ReadOff {α : Type} (item : Json) (result : Except SourceFailure α) : Prop :=
  (∃ a, result = .ok a) ∨ ¬ item.IsItem ∧ ∃ fault, result = .error (.malformed fault)

theorem isObject_of_isItem (h : item.IsItem) : item.isObject = true := by
  obtain ⟨name, hname⟩ := h
  exact Json.isObject_of_member? hname

theorem get_name_of_isItem (h : item.IsItem) : ∃ name, item.get "name" = .string name := by
  obtain ⟨name, hname⟩ := h
  exact ⟨name, by rw [Json.get, hname]; rfl⟩

theorem get_name_of_blockName {name : Json} (h : blockName item = .ok name) :
    item.get "name" = name := by
  unfold blockName at h
  rw [Json.get]
  cases hname : item.member? "name" with
  | none =>
    rw [hname] at h
    cases h
  | some other =>
    rw [hname] at h
    cases h
    rfl

theorem readOff_isBlock (item : Json) : ReadOff item (isBlock item) := by
  unfold isBlock memberOf
  cases hobject : item.isObject with
  | true => exact .inl ⟨_, rfl⟩
  | false => exact .inr ⟨fun h => by simp [isObject_of_isItem h] at hobject, _, rfl⟩

theorem readOff_blockName (item : Json) : ReadOff item (blockName item) := by
  unfold blockName
  cases hname : item.member? "name" with
  | some name => exact .inl ⟨name, rfl⟩
  | none => exact .inr ⟨fun ⟨name, h⟩ => by simp [hname] at h, _, rfl⟩

theorem readOff_fileName (item : Json) : ReadOff item (fileName item) := by
  unfold fileName memberOf
  cases hobject : item.isObject with
  | false => exact .inr ⟨fun h => by simp [isObject_of_isItem h] at hobject, _, rfl⟩
  | true =>
    show ReadOff item (if (item.get "name").isArray || (item.get "name").isObject then _ else _)
    split
    · rename_i hother
      refine .inr ⟨fun h => ?_, _, rfl⟩
      obtain ⟨name, hname⟩ := get_name_of_isItem h
      rw [hname] at hother
      cases hother
    · exact .inl ⟨_, rfl⟩

/-- Where something cannot be read off an item of a listing, the listing is misshapen. -/
theorem ReadOff.ends {α : Type} {result : Except SourceFailure α} (h : ReadOff item result)
    (hgood : AllGood seen) (htold : Told seen (.array items)) (hitem : item ∈ items) :
    Ends (liftM result) seen (fun seen' a => seen' = seen ∧ result = .ok a) (r.Fails first) := by
  refine ends_lift (fun a ha => ⟨rfl, ha⟩) fun e he => ?_
  rcases h with ⟨a, ha⟩ | ⟨hnameless, fault, hfault⟩
  · cases ha.symm.trans he
  · cases hfault.symm.trans he
    exact .misshapen hgood htold (.item hitem hnameless)

/-! ## Listings -/

theorem folder_ends (hgood : AllGood seen) (hmeans : r.Means first seen path) :
    Ends (r.folder path) seen (fun seen' items => AllGood seen' ∧ Told seen' (.array items))
      (r.Fails first) := by
  refine (contents_ends hgood hmeans).bind fun seen' v ⟨hgood', htold⟩ => ?_
  refine ends_lift (fun items hitems => ⟨hgood', ?_⟩) fun e he => ?_
  · cases v with
    | array _ =>
      cases hitems
      exact htold
    | _ => cases hitems
  · cases v with
    | array _ => cases he
    | _ =>
      cases he
      exact .other hgood' rfl rfl

/-- What is told of a named item has a name. -/
theorem info?_ends (hgood : AllGood seen) (htold : Told seen (.array items))
    (hitem : item ∈ items) :
    Ends (r.info? item) seen
      (fun seen' b? => (AllGood seen' ∧ Told seen' (.array items))
        ∧ ∀ b ∈ b?, item.IsItem → b.IsNamed)
      (r.Fails first) := by
  refine ((readOff_isBlock item).ends hgood htold hitem).bind ?_
  rintro seen isDir ⟨rfl, -⟩
  cases isDir with
  | false => exact ends_pure ⟨⟨hgood, htold⟩, nofun⟩
  | true =>
    refine ((readOff_blockName item).ends hgood htold hitem).bind ?_
    rintro seen name ⟨rfl, hname⟩
    have hmeans : r.Means first seen (r.blockPath name.shown) := by
      rw [← get_name_of_blockName hname]
      exact .listed htold hitem
    refine (folder_ends hgood hmeans).extends.bind ?_
    rintro seen' files ⟨hseen, hgood', hfiles⟩
    have hnames : Ends (files.mapM (liftM <| fileName ·)) seen' (fun seen'' _ => seen'' = seen')
        (r.Fails first) := by
      refine ends_mapM (P := (· = seen')) ?_ rfl
      rintro file hfile seen' rfl
      exact ((readOff_fileName file).ends hgood' hfiles hfile).mono fun _ _ h => h.1
    refine hnames.bind ?_
    rintro seen' names rfl
    refine ends_pure ⟨⟨hgood', htold.mono hseen⟩, ?_⟩
    intro b hb hitem'
    obtain ⟨text, htext⟩ := get_name_of_isItem hitem'
    cases hb
    exact ⟨text, (get_name_of_blockName hname).symm.trans htext⟩

/-- A listing of the blocks, or why there is none. -/
theorem list_ends (r : Repository) :
    Ends r.list [] (fun seen _ => AllGood seen) (r.Fails r.blocksPath) := by
  have hnone : AllGood [] := nofun
  refine (folder_ends hnone .first).bind ?_
  rintro seen items ⟨hgood, htold⟩
  refine (ends_filterMapM (P := fun seen => AllGood seen ∧ Told seen (.array items))
    (Q := fun b => (∀ item ∈ items, item.IsItem) → b.IsNamed) ?_ ⟨hgood, htold⟩).bind ?_
  · rintro item hitem seen' ⟨hgood', htold'⟩
    exact (info?_ends hgood' htold' hitem).mono fun _ _ ⟨hholds, hnamed⟩ =>
      ⟨hholds, fun b hb hitems => hnamed b hb (hitems item hitem)⟩
  · rintro seen' blocks ⟨⟨hgood', htold'⟩, hblocks⟩
    refine ends_lift (fun _ _ => hgood') fun e he => ?_
    have hunnamed : ¬ ∀ item ∈ items, item.IsItem := by
      intro hitems
      obtain ⟨sorted, hsorted, -⟩ := BlockInfo.sortByName_eq_ok fun b hb => hblocks b hb hitems
      rw [hsorted] at he
      cases he
    obtain ⟨item, hitem, hnameless⟩ : ∃ item ∈ items, ¬ item.IsItem := by simpa using hunnamed
    cases hsorted : BlockInfo.sortByName blocks with
    | ok sorted =>
      rw [hsorted] at he
      cases he
    | error fault =>
      rw [hsorted] at he
      cases he
      exact .misshapen hgood' htold' (.item hitem hnameless)

/-! ## Code -/

theorem textOf_ends {content : String} {e : SourceFailure} (h : textOf path content = .error e) :
    (∃ fault, e = .malformed fault ∧ ¬ (Json.string content).IsAscii)
      ∨ ∃ fault, e = .source (.undecodable path fault) := by
  unfold textOf at h
  split at h
  · rename_i hany
    cases h
    refine .inl ⟨_, rfl, ?_⟩
    rintro ⟨letters, hletters, hascii⟩
    cases hletters
    obtain ⟨c, hc, hlarge⟩ := List.any_eq_true.mp hany
    have hsmall := hascii c hc
    simp only [decide_eq_true_eq] at hlarge
    omega
  · split at h
    · cases h
      exact .inr ⟨_, rfl⟩
    · split at h <;> cases h
      exact .inr ⟨_, rfl⟩

/-- A file is not read because it is none, because its letters are no text, or because it has not
the form of a file. -/
theorem fileText_ends {file : Json} {e : SourceFailure} (h : fileText path file = .error e) :
    (∃ error, e = .source error ∧ error.status? = none ∧ error.isMissing = false)
      ∨ ∃ fault, e = .malformed fault ∧ file.IsMisshapen := by
  unfold fileText at h
  split at h
  · rename_i hfile
    rw [Bool.and_eq_true, beq_iff_eq] at hfile
    have htype : file.member? "type" = some (.string "file") := by
      have hget := hfile.2
      unfold Json.get at hget
      cases hmember : file.member? "type" with
      | none =>
        rw [hmember] at hget
        cases hget
      | some type =>
        rw [hmember] at hget
        cases type <;> cases hget
        rfl
    split at h
    · cases h
    · rename_i content hcontent
      rcases textOf_ends h with ⟨fault, rfl, hascii⟩ | ⟨fault, rfl⟩
      · exact .inr ⟨fault, rfl, .content htype hcontent hascii⟩
      · exact .inl ⟨_, rfl, rfl, rfl⟩
    · rename_i other hother hcontent
      cases h
      refine .inr ⟨_, rfl, .content htype hcontent ?_⟩
      rintro ⟨letters, hletters, -⟩
      exact hother letters hletters
  · cases h
    exact .inl ⟨_, rfl, rfl, rfl⟩

theorem codeIn_ends (r : Repository) (folder name : String) :
    Ends (r.codeIn folder name) [] (fun seen _ => AllGood seen)
      (r.Fails (codePath folder name)) := by
  have hnone : AllGood [] := nofun
  refine ((contents_ends hnone .first).mapError fun _ _ h => h.asMissingFile _).bind ?_
  rintro seen file ⟨hgood, htold⟩
  refine ends_lift (fun _ _ => hgood) fun e he => ?_
  rcases fileText_ends he with ⟨error, rfl, hstatus, hthere⟩ | ⟨fault, rfl, hform⟩
  · exact .other hgood hstatus hthere
  · exact .misshapen hgood htold hform

/-- **Whatever is replied, asking ends.** A listing of the blocks and the code of a block, by name
or as listed, are given only if all answers are good. Else the failure says so, with the status of
the answer if there is one, and something is missing iff the answer is a 404. It says nothing of
this kind only if an answer has not the form of contents, or a path cannot be asked for. -/
theorem asking_ends (r : Repository) :
    Ends r.list [] (fun seen _ => AllGood seen) (r.Fails r.blocksPath)
    ∧ (∀ name, Ends (r.code name) [] (fun seen _ => AllGood seen)
        (r.Fails (codePath (r.blockPath name) name)))
    ∧ ∀ b, Ends (r.codeOf b) [] (fun seen _ => AllGood seen)
        (r.Fails (codePath b.path b.name.shown)) :=
  ⟨r.list_ends, fun name => r.codeIn_ends (r.blockPath name) name,
    fun b => r.codeIn_ends b.path b.name.shown⟩

/-- A page comes instead of a listing, and the answer seems to be good: the failure is none that a
source tells of. -/
theorem list_malformed_page :
    ∃ fault requests,
      (((ofLocation [] { owner := "acme", name := "site" }).list.run
        ⟨fun _ _ => .answer 200 "<html>"⟩).run.run []) = (.error (.malformed fault), requests) :=
  ⟨_, _, rfl⟩

end Repository

end BlockAuthoring
