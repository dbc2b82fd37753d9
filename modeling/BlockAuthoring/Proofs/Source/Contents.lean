import BlockAuthoring.Proofs.Association
import BlockAuthoring.Proofs.Disk.Folder
import BlockAuthoring.Proofs.Source.Address
import BlockAuthoring.Proofs.Source.Asking
import BlockAuthoring.Proofs.Text.Base64

/-!
# A repository that lies on a disk

The service shows what lies on a disk: it lists folders and sends files, under the path that an
address leads to. What is asked for a path without special characters is told of the place that the
path names.
-/

namespace BlockAuthoring

open BlockAuthoring.Path (IsEntryName)

/-! ## What a service shows -/

/-- The type of what lies somewhere, in the words of the service. -/
def Node.kind : Node → String
  | folder => "dir"
  | file _ => "file"

/-- The item of a listing tells the name and the type of what lies in the folder. -/
structure Json.Tells (item : Json) (name : String) (n : Node) : Prop where
  name : item.member? "name" = some (.string name)
  type : item.member? "type" = some (.string n.kind)

/-- The items are the listing of a folder, in any order. -/
structure Disk.ListedBy (d : Disk) (l : Location) (items : List Json) : Prop where
  each : ∀ item ∈ items, ∃ name n, d.node? (l ++ [name]) = some n ∧ item.Tells name n
  complete : (items.map (·.get "name")).Perm ((d.namesAt l).map .string)

/-- The reply shows what lies at a location: a folder by its listing; a file by its bytes in
base64, with anything but letters between the letters. -/
inductive Reply.Shows (d : Disk) (l : Location) : Reply → Prop where
  | folder {body : String} {items : List Json} (lies : d.node? l = some .folder)
      (read : Json.parse body.toList = .ok (.array items)) (listed : d.ListedBy l items) :
      Shows d l (.answer 200 body)
  | file {body letters : String} {bytes : List UInt8} {item : Json}
      (lies : d.node? l = some (.file bytes))
      (read : Json.parse body.toList = .ok item)
      (type : item.member? "type" = some (.string "file"))
      (content : item.member? "content" = some (.string letters))
      (ascii : ∀ c ∈ letters.toList, c.toNat < 0x80)
      (data : letters.toList.filter Text.Base64.isData = Text.Base64.encode bytes) :
      Shows d l (.answer 200 body)
  | missing {body : String} (lies : d.node? l = none) : Shows d l (.answer 404 body)

namespace Repository

open Asking

variable {r : Repository} {service : Service} {d : Disk} {path name : String}
  {l : BlockAuthoring.Location}

/-- Where the repository's paths start in the paths of addresses. -/
def root (r : Repository) : String := String.ofList (Address.pathOf (r.addressText ""))

/-- The path to a place below the folder of blocks. -/
def pathTo (r : Repository) (names : List String) : String :=
  names.foldl (fun path name => path ++ "/" ++ name) r.blocksPath

/-- The service shows, under the path of blocks, what lies behind a location of a disk. -/
def Serves (r : Repository) (service : Service) (d : Disk) (l : BlockAuthoring.Location) : Prop :=
  ∀ (request : Request) (names : List String), (∀ name ∈ names, IsEntryName name) →
    request.address.plainPath = some (r.root ++ r.pathTo names) →
    (service request).Shows d (l ++ names)

/-! ## Addresses -/

/-- The address of a path is not too long and leads to the path: no character in it means something
else, and no part of the path is made of dots. -/
structure Reaches (r : Repository) (path : String) : Prop where
  short : (r.addressText path).length ≤ Client.maxAddress
  plain : ∀ c ∈ r.addressText path, Address.IsPlain c
  dotless : Address.Dotless path.toList

theorem getLast?_withoutSlashesBehind (text : List Char) :
    (withoutSlashesBehind text).getLast? ≠ some '/' := by
  rw [withoutSlashesBehind, withoutSlashesBefore, List.getLast?_reverse]
  intro h
  have hhead := List.head?_dropWhile_not (· == '/') text.reverse
  rw [h] at hhead
  cases hhead

/-- No slash stands behind the address of the service. -/
theorem getLast?_baseUrl (env : Environment) (place : Location) :
    (ofLocation env place).baseUrl.toList.getLast? ≠ some '/' := by
  rw [ofLocation, String.toList_ofList]
  exact getLast?_withoutSlashesBehind _

theorem addressText_eq (r : Repository) (path : String) :
    r.addressText path = r.baseUrl.toList ++ '/' :: 'r'
      :: (("epos/" ++ r.owner ++ "/" ++ r.name ++ "/contents").toList ++ '/' :: path.toList) := by
  simp [addressText]

/-- A path that is reached is reached without its last name. -/
theorem Reaches.outer (h : r.Reaches (path ++ "/" ++ name)) : r.Reaches path := by
  have htext : r.addressText (path ++ "/" ++ name) = r.addressText path ++ '/' :: name.toList := by
    simp [addressText]
  have hparts : Path.slashParts (path ++ "/" ++ name).toList
      = Path.slashParts path.toList ++ Path.slashParts name.toList := by
    rw [← Address.slashParts_append_slash]
    simp
  obtain ⟨hshort, hplain, hdotless⟩ := h
  rw [htext] at hshort hplain
  rw [Address.Dotless, hparts] at hdotless
  refine ⟨?_, fun c hc => hplain c (List.mem_append_left _ hc),
    fun part hpart => hdotless part (List.mem_append_left _ hpart)⟩
  rw [List.length_append] at hshort
  omega

/-- A text that is not too long and has no control characters in it is an address. -/
theorem addressOf_eq_ok {text : List Char} (hshort : text.length ≤ Client.maxAddress)
    (hcontrol : Address.control? text = none) (query : List Char) :
    Client.addressOf text query = .ok (.ofText text query) := by
  rw [Client.addressOf, if_neg (Nat.not_lt.mpr hshort), hcontrol]

/-- The request for a path that is reached leads to it. -/
theorem Reaches.request (hbase : r.baseUrl.toList.getLast? ≠ some '/') (h : r.Reaches path) :
    ∃ request, r.request path = .ok request
      ∧ request.address.plainPath = some (r.root ++ path) := by
  have hpath : Address.pathOf (r.addressText path) = r.root.toList ++ path.toList := by
    rw [root, String.toList_ofList, addressText_eq, addressText_eq,
      Address.pathOf_append hbase (by decide) h.dotless]
    rfl
  have hcontrol : Address.control? (r.addressText path) = none :=
    Address.control?_eq_none_iff.mpr fun c hc => ⟨(h.plain c hc).1, (h.plain c hc).2.1⟩
  rw [Repository.request, addressOf_eq_ok h.short hcontrol]
  refine ⟨_, rfl, ?_⟩
  rw [Address.plainPath_ofText h.plain, hpath, ← String.toList_append, String.ofList_toList]

/-! ## Contents -/

/-- A text that is read as JSON has no byte order mark. -/
theorem withoutMark_of_parse {text : List Char} {v : Json} (h : Json.parse text = .ok v) :
    withoutMark text = text := by
  unfold withoutMark
  split
  · rename_i rest
    simp [Json.parse, Json.readText, Json.complain] at h
  · rfl

theorem contentsOf_read {body : String} {v : Json}
    (h : Json.parse (withoutMark body.toList) = .ok v) :
    contentsOf path (.answer 200 body) = .ok v := by
  simp only [contentsOf, h, Except.mapError]
  rfl

theorem contentsOf_answer {body : String} {v : Json} (h : Json.parse body.toList = .ok v) :
    contentsOf path (.answer 200 body) = .ok v :=
  contentsOf_read (by rw [withoutMark_of_parse h, h])

theorem gives_contents (service : Service) (hbase : r.baseUrl.toList.getLast? ≠ some '/')
    (h : r.Reaches path) :
    ∃ request, request.address.plainPath = some (r.root ++ path)
      ∧ Gives service (r.contents path) (contentsOf path (service request)) := by
  obtain ⟨request, hrequest, hpath⟩ := h.request hbase
  exact ⟨request, hpath, fun requests => ⟨[request], run_contents hrequest requests⟩⟩

/-! ## Items -/

theorem isBlock_eq_ok {item : Json} (h : item.isObject = true) :
    isBlock item = .ok ((item.get "type").string? == some "dir") := by
  rw [isBlock, memberOf, if_pos h]
  rfl

theorem blockName_eq_ok {item : Json} (h : item.member? "name" = some (.string name)) :
    blockName item = .ok (.string name) := by
  rw [blockName, h]

theorem fileName_eq_ok {item : Json} (h : item.member? "name" = some (.string name)) :
    fileName item = .ok (.string name) := by
  rw [fileName, memberOf, if_pos (Json.isObject_of_member? h), Json.get, h]
  rfl

/-! ## Folders -/

theorem gives_folder (hbase : r.baseUrl.toList.getLast? ≠ some '/') (h : r.Reaches path)
    (hshows : ∀ request : Request, request.address.plainPath = some (r.root ++ path) →
      (service request).Shows d l)
    (hlies : d.node? l = some .folder) :
    ∃ items, d.ListedBy l items ∧ Gives service (r.folder path) (.ok items) := by
  obtain ⟨request, hpath, hcontents⟩ := gives_contents service hbase h
  have hshown := hshows request hpath
  generalize service request = reply at hshown hcontents
  cases hshown with
  | @folder _ items _ hread hlisted =>
    rw [contentsOf_answer hread] at hcontents
    exact ⟨items, hlisted, hcontents.bind (gives_lift (listingOf path _))⟩
  | file hfile => cases hlies.symm.trans hfile
  | missing hmissing => cases hlies.symm.trans hmissing

/-! ## Files -/

/-- The content of a file writes the file's text. -/
theorem textOf_eq_ok {content : String} {text : List Char}
    (hascii : ∀ c ∈ content.toList, c.toNat < 0x80) {bytes : List UInt8}
    (hdata : content.toList.filter Text.Base64.isData = Text.Base64.encode bytes)
    (htext : Text.Utf8.decode bytes = .ok text) :
    textOf path content = .ok (String.ofList text) := by
  have hany : content.toList.any (0x80 ≤ ·.toNat) = false := by
    rw [List.any_eq_false]
    intro c hc
    simpa using hascii c hc
  simp only [textOf, hany, Text.Base64.decode_eq_ok hdata, htext, Bool.false_eq_true, if_false]

theorem fileText_eq_ok {item : Json} {content text : String}
    (htype : item.member? "type" = some (.string "file"))
    (hcontent : item.member? "content" = some (.string content))
    (htext : textOf path content = .ok text) : fileText path item = .ok text := by
  simp [fileText, Json.isObject_of_member? htype, Json.get, htype, Json.string?, hcontent, htext]

/-- What is asked for the code in a folder is the file's text, if a file lies there. If not, it is
said that there is none. -/
theorem gives_codeIn {folder : String} (hbase : r.baseUrl.toList.getLast? ≠ some '/')
    (h : r.Reaches (codePath folder name))
    (hshows : ∀ request : Request,
      request.address.plainPath = some (r.root ++ codePath folder name) →
      (service request).Shows d l) :
    (∃ bytes, d.node? l = some (.file bytes) ∧ ∀ text, Text.Utf8.decode bytes = .ok text →
      Gives service (r.codeIn folder name) (.ok (String.ofList text)))
    ∨ ((∀ bytes, d.node? l ≠ some (.file bytes)) ∧ ∃ e,
      Gives service (r.codeIn folder name) (.error (.source e))) := by
  obtain ⟨request, hpath, hcontents⟩ := gives_contents service hbase h
  have hasked := hcontents.mapError (asMissingFile (codePath folder name))
  have hshown := hshows request hpath
  generalize service request = reply at hshown hasked
  cases hshown with
  | folder hlies hread =>
    rw [contentsOf_answer hread] at hasked
    refine .inr ⟨by simp [hlies], .notAFile (codePath folder name), ?_⟩
    exact hasked.bind (gives_lift (fileText (codePath folder name) _))
  | file hlies hread htype hcontent hascii hdata =>
    rw [contentsOf_answer hread] at hasked
    refine .inl ⟨_, hlies, fun text htext => ?_⟩
    have hfile : fileText (codePath folder name) _ = .ok _ :=
      fileText_eq_ok htype hcontent (textOf_eq_ok hascii hdata htext)
    exact hasked.bind (hfile ▸ gives_lift (fileText (codePath folder name) _))
  | missing hlies =>
    exact .inr ⟨by simp [hlies], .fileMissing (codePath folder name), hasked.bind_error⟩

end Repository

end BlockAuthoring
