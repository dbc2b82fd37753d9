import BlockAuthoring.Proofs.Source.Outcome
import BlockAuthoring.Proofs.Source.Serving

/-!
# What a listing asks for

A listing asks for the folder of blocks and then for the folders in it, one after another as the
first answer lists them. It ends at the first answer that is not good. If there is none, and every
folder has an address, every folder is told of, with what its own answer lists.
-/

namespace BlockAuthoring

/-! ## Listings that are sent -/

/-- The reply is the listing of these items, and they have names. -/
inductive Reply.Lists (items : List Json) : Reply → Prop where
  | listing {body : String}
      (read : Json.parse (Repository.withoutMark body.toList) = .ok (.array items))
      (named : ∀ item ∈ items, item.IsItem) : Lists items (.answer 200 body)

theorem Reply.Lists.good {items : List Json} {reply : Reply} (h : reply.Lists items) :
    reply.status? = some 200 := by
  cases h
  rfl

theorem Reply.Lists.named {items : List Json} {reply : Reply} (h : reply.Lists items) :
    ∀ item ∈ items, item.IsItem := by
  cases h with
  | listing _ named => exact named

theorem Reply.Lists.contentsOf {items : List Json} {reply : Reply} (h : reply.Lists items)
    (path : String) : Repository.contentsOf path reply = .ok (.array items) := by
  cases h with
  | listing read _ => exact Repository.contentsOf_read read

theorem Reply.Lists.unique {items items' : List Json} {reply : Reply} (h : reply.Lists items)
    (h' : reply.Lists items') : items = items' := by
  cases (h.contentsOf "").symm.trans (h'.contentsOf "")
  rfl

/-- Good answers, whenever they come, are listings. -/
def Replies.WellFormed (replies : Replies) : Prop :=
  ∀ before request, (replies.behind before request).status? = some 200 →
    ∃ items, (replies.behind before request).Lists items

namespace Repository

variable {r : Repository} {replies : Replies} {path : String} {paths : List String}
  {item : Json} {items files : List Json} {request : Request} {requests before : List Request}
  {seen : List Reply}

/-! ## Requests -/

/-- There is no address for the path: its text is too long, or it has a control character. -/
def NoAddress (r : Repository) (path : String) : Prop :=
  Client.maxAddress < (r.addressText path).length
    ∨ ∃ c ∈ r.addressText path, c.toNat < 0x20 ∨ c.toNat = 0x7F

/-- The request asks for the path, on the branch and with the token of the repository. -/
structure Asks (r : Repository) (path : String) (request : Request) : Prop where
  made : r.request path = .ok request
  branch : request.address.query = "ref=".toList ++ Address.queryValue r.branch.toList
  token : request.token = if r.token.isEmpty then none else some r.token
  leads : r.Reaches path → request.address.plainPath = some (r.root ++ path)

theorem noAddress_of_request {fault : Malformation} (h : r.request path = .error fault) :
    r.NoAddress path := by
  by_cases hlong : Client.maxAddress < (r.addressText path).length
  · exact .inl hlong
  · apply Or.inr
    by_contra hnone
    have hcontrol : Address.control? (r.addressText path) = none := by
      rw [Address.control?_eq_none_iff]
      intro c hc
      by_contra hrefused
      exact hnone ⟨c, hc, by omega⟩
    rw [Repository.request, addressOf_eq_ok (Nat.not_lt.mp hlong) hcontrol] at h
    cases h

theorem eq_ofText_of_addressOf {text query : List Char} {address : Address}
    (h : Client.addressOf text query = .ok address) : address = .ofText text query := by
  unfold Client.addressOf at h
  split at h
  · cases h
  · split at h
    · cases h
    · exact (Except.ok.inj h).symm

theorem asks_of_request (hbase : r.baseUrl.toList.getLast? ≠ some '/')
    (h : r.request path = .ok request) : r.Asks path request := by
  have hleads : r.Reaches path → request.address.plainPath = some (r.root ++ path) := by
    intro hreaches
    obtain ⟨request', hrequest', hpath⟩ := hreaches.request hbase
    cases h.symm.trans hrequest'
    exact hpath
  have hmade := h
  unfold Repository.request at h
  obtain ⟨address, haddress, hrequest⟩ := BlockAuthoring.bind_eq_ok_iff.mp h
  cases eq_ofText_of_addressOf haddress
  cases hrequest
  exact ⟨hmade, rfl, rfl, hleads⟩

/-! ## Entries -/

/-- The item is a folder. -/
def isFolderItem (item : Json) : Bool := (item.get "type").string? == some "dir"

/-- The folder that an item of the first answer stands for. -/
def folderOf (r : Repository) (item : Json) : String :=
  r.blocksPath ++ "/" ++ (item.get "name").shown

/-- The folder of blocks and the folders in it, as they are listed. -/
def itinerary (r : Repository) (items : List Json) : List String :=
  r.blocksPath :: (items.filter isFolderItem).map r.folderOf

/-- What is told of an item, with the names of the files in its folder. -/
def entryFrom (r : Repository) (item : Json) (files : List Json) : BlockInfo :=
  r.infoOf item (item.get "name") (files.map (·.get "name"))

/-- The entry tells of the item, and of what is listed in its folder. -/
structure Describes (r : Repository) (item : Json) (files : List Json) (b : BlockInfo) : Prop where
  name : b.name = item.get "name"
  path : b.path = r.folderOf item
  hasCode : b.hasCode = true ↔ ∃ file ∈ files, file.get "name" = .string (b.name.shown ++ ".js")
  hasStyle : b.hasStyle = true ↔ ∃ file ∈ files, file.get "name" = .string (b.name.shown ++ ".css")
  source : b.source = .repository
  url : b.url = item.get "html_url"

theorem any_named_iff {name : String} :
    (files.map (·.get "name")).any (fun f => f.string? == some name) = true
      ↔ ∃ file ∈ files, file.get "name" = .string name := by
  rw [List.any_map, List.any_eq_true]
  refine exists_congr fun file => and_congr_right fun _ => ?_
  rw [Function.comp_apply, beq_iff_eq]
  cases file.get "name" <;> simp [Json.string?]

theorem describes_entryFrom (r : Repository) (item : Json) (files : List Json) :
    r.Describes item files (r.entryFrom item files) where
  name := rfl
  path := rfl
  hasCode := any_named_iff
  hasStyle := any_named_iff
  source := rfl
  url := rfl

/-- Every folder gets an entry, and the entries have names. -/
theorem describes_entries (r : Repository) (folders : List Json) (listings : List (List Json)) :
    List.Forall₂ (fun (pair : Json × List Json) b => r.Describes pair.1 pair.2 b)
      (folders.zip listings) (folders.zipWith r.entryFrom listings) := by
  rw [← List.map_uncurry_zip_eq_zipWith, List.forall₂_map_right_iff, List.forall₂_same]
  exact fun pair _ => r.describes_entryFrom pair.1 pair.2

theorem isNamed_entries {folders : List Json} (h : ∀ item ∈ folders, item.IsItem)
    (r : Repository) (listings : List (List Json)) :
    ∀ b ∈ folders.zipWith r.entryFrom listings, b.IsNamed := by
  intro b hb
  rw [← List.map_uncurry_zip_eq_zipWith, List.mem_map] at hb
  obtain ⟨⟨item, files⟩, hpair, rfl⟩ := hb
  exact get_name_of_isItem (h item (List.of_mem_zip hpair).1)

/-! ## One folder -/

/-- Asking for one folder: what is asked and replied, and what comes of it. -/
inductive Step (r : Repository) (path : String) :
    List Request → List Reply → Except SourceFailure (List Json) → Prop where
  | refused {fault : Malformation} (refuses : r.request path = .error fault) :
      Step r path [] [] (.error (.malformed fault))
  | failed {request : Request} {reply : Reply} {e : SourceError}
      (asked : r.request path = .ok request) (bad : reply.status? ≠ some 200)
      (reports : e.Reports reply) :
      Step r path [request] [reply] (.error (.source e))
  | listed {request : Request} {reply : Reply} {items : List Json}
      (asked : r.request path = .ok request) (lists : reply.Lists items) :
      Step r path [request] [reply] (.ok items)

theorem run_folder (hrequest : r.request path = .ok request)
    (hlists : (replies.behind before request).Lists items) :
    ((r.folder path).run replies).run.run before = (.ok items, before ++ [request]) := by
  rw [folder, Asking.run_bind, run_contents hrequest, hlists.contentsOf]
  exact Asking.run_lift _ _

theorem run_folder_refused {fault : Malformation} (h : r.request path = .error fault) :
    ((r.folder path).run replies).run.run before = (.error (.malformed fault), before) := by
  rw [folder, Asking.run_bind, run_contents_error h]

/-- A folder is asked for with one request, or with none. -/
theorem folder_step (h : replies.WellFormed) (r : Repository) (path : String)
    (before : List Request) :
    ∃ requests result, ((r.folder path).run replies).run.run before = (result, before ++ requests)
      ∧ r.Step path requests (replies.along before requests) result := by
  cases hrequest : r.request path with
  | error fault =>
    refine ⟨[], .error (.malformed fault), ?_, .refused hrequest⟩
    rw [run_folder_refused hrequest, List.append_nil]
  | ok request =>
    by_cases hbad : (replies.behind before request).status? ≠ some 200
    · obtain ⟨e, he, hreports⟩ := contentsOf_bad path hbad
      refine ⟨[request], .error (.source e), ?_, .failed hrequest hbad hreports⟩
      rw [folder, Asking.run_bind, run_contents hrequest, he]
    · obtain ⟨items, hlists⟩ := h before request (not_not.mp hbad)
      exact ⟨[request], .ok items, run_folder hrequest hlists, .listed hrequest hlists⟩

/-! ## One folder after another -/

/-- Asking for folders one after another, up to the first that is not listed. -/
inductive Walk (r : Repository) : List String → List Request → List Reply →
    Except SourceFailure (List (List Json)) → Prop where
  | done : Walk r [] [] [] (.ok [])
  | stop {path : String} {paths : List String} {requests : List Request} {seen : List Reply}
      {e : SourceFailure} (step : r.Step path requests seen (.error e)) :
      Walk r (path :: paths) requests seen (.error e)
  | next {path : String} {paths : List String} {requests more : List Request}
      {seen later : List Reply} {items : List Json}
      {result : Except SourceFailure (List (List Json))}
      (step : r.Step path requests seen (.ok items)) (rest : Walk r paths more later result) :
      Walk r (path :: paths) (requests ++ more) (seen ++ later) (result.map (items :: ·))

variable {result : Except SourceFailure (List (List Json))}

/-- The requests are for the paths in their order, once each, and they may end early. -/
theorem Walk.inOrder (h : r.Walk paths requests seen result) :
    List.Forall₂ (fun path request => r.request path = .ok request)
      (paths.take requests.length) requests := by
  induction h with
  | done => exact .nil
  | stop step =>
    cases step with
    | refused _ => exact .nil
    | failed asked => exact .cons asked .nil
  | next step rest ih =>
    cases step with
    | listed asked _ => exact .cons asked ih

theorem allGood_dropLast_cons {reply : Reply} (hgood : reply.status? = some 200)
    (h : AllGood seen.dropLast) : AllGood (reply :: seen).dropLast := by
  cases seen with
  | nil => exact nofun
  | cons next seen =>
    rw [List.dropLast_cons_cons]
    exact List.forall_mem_cons.mpr ⟨hgood, h⟩

/-- Nothing is asked behind a reply that is not good. -/
theorem Walk.stops (h : r.Walk paths requests seen result) : AllGood seen.dropLast := by
  induction h with
  | done => exact nofun
  | stop step => cases step <;> exact nofun
  | next step rest ih =>
    cases step with
    | listed _ lists => exact allGood_dropLast_cons lists.good ih

/-- A reply that is not good is why the walk fails. -/
theorem Walk.fails (h : r.Walk paths requests seen result) {reply : Reply} (hreply : reply ∈ seen)
    (hbad : reply.status? ≠ some 200) :
    ∃ e : SourceError, result = .error (.source e) ∧ e.Reports reply := by
  induction h with
  | done => cases hreply
  | stop step =>
    cases step with
    | refused _ => cases hreply
    | failed _ _ reports =>
      rw [List.mem_singleton.mp hreply]
      exact ⟨_, rfl, reports⟩
  | next step rest ih =>
    cases step with
    | listed _ lists =>
      rcases List.mem_cons.mp hreply with rfl | hlater
      · exact absurd lists.good hbad
      · obtain ⟨e, rfl, hreports⟩ := ih hlater
        exact ⟨e, rfl, hreports⟩

/-- Where all replies are good, all paths are listed, or the next one has no address. -/
theorem Walk.gives (h : r.Walk paths requests seen result) (hgood : AllGood seen) :
    (∃ listings, result = .ok listings ∧ requests.length = paths.length
      ∧ listings.length = paths.length ∧ List.Forall₂ Reply.Lists listings seen)
    ∨ ∃ path fault, result = .error (.malformed fault) ∧ paths[requests.length]? = some path
      ∧ r.NoAddress path := by
  induction h with
  | done => exact .inl ⟨[], rfl, rfl, rfl, .nil⟩
  | stop step =>
    cases step with
    | refused refuses => exact .inr ⟨_, _, rfl, rfl, noAddress_of_request refuses⟩
    | failed _ bad => exact absurd (hgood _ (List.mem_singleton_self _)) bad
  | next step rest ih =>
    cases step with
    | listed _ lists =>
      rcases ih fun reply hreply => hgood reply (List.mem_cons_of_mem _ hreply) with
        ⟨listings, rfl, hasked, hlength, hlists⟩ | ⟨path, fault, rfl, hpath, hnone⟩
      · exact .inl ⟨_, rfl, by simp [hasked], by simp [hlength], .cons lists hlists⟩
      · exact .inr ⟨path, fault, rfl, by simpa using hpath, hnone⟩

/-! ## The folders of a listing -/

theorem fileName_of_isItem (h : item.IsItem) : fileName item = .ok (item.get "name") := by
  obtain ⟨name, hname⟩ := h
  rw [fileName_eq_ok hname, Json.get, hname]
  rfl

theorem blockName_of_isItem (h : item.IsItem) : blockName item = .ok (item.get "name") := by
  obtain ⟨name, hname⟩ := h
  rw [blockName_eq_ok hname, Json.get, hname]
  rfl

/-- The names of files are read without asking for more. -/
theorem run_fileNames (h : ∀ file ∈ files, file.IsItem) :
    ((files.mapM (m := Asking) (liftM <| fileName ·)).run replies).run.run before
      = (.ok (files.map (·.get "name")), before) := by
  induction files with
  | nil => rfl
  | cons file files ih =>
    obtain ⟨hfile, hfiles⟩ := List.forall_mem_cons.mp h
    rw [List.mapM_cons, Asking.run_bind, Asking.run_lift, fileName_of_isItem hfile]
    dsimp only
    rw [Asking.run_bind, ih hfiles]
    rfl

theorem isBlock_of_isItem (h : item.IsItem) : isBlock item = .ok (isFolderItem item) :=
  isBlock_eq_ok (isObject_of_isItem h)

theorem run_info?_of_file (hitem : item.IsItem) (hfile : isFolderItem item = false) :
    ((r.info? item).run replies).run.run before = (.ok none, before) := by
  rw [info?, isBlock_of_isItem hitem, Asking.run_bind, Asking.run_lift, hfile]
  rfl

/-- What is told of a folder comes of asking for it. -/
theorem run_info?_of_folder (hitem : item.IsItem) (hfolder : isFolderItem item = true) :
    ((r.info? item).run replies).run.run before
      = ((do
          let names ← (← r.folder (r.folderOf item)).mapM (liftM <| fileName ·)
          return some (r.infoOf item (item.get "name") names) : Asking _).run replies).run.run
        before := by
  rw [info?, isBlock_of_isItem hitem, Asking.run_bind, Asking.run_lift, hfolder]
  dsimp only
  rw [if_pos rfl, blockName_of_isItem hitem, Asking.run_bind, Asking.run_lift]
  rfl

theorem run_info?_refused {fault : Malformation} (hitem : item.IsItem)
    (hfolder : isFolderItem item = true) (h : r.request (r.folderOf item) = .error fault) :
    ((r.info? item).run replies).run.run before = (.error (.malformed fault), before) := by
  rw [run_info?_of_folder hitem hfolder, Asking.run_bind, run_folder_refused h]

theorem info?_step (h : replies.WellFormed) (hitem : item.IsItem)
    (hfolder : isFolderItem item = true) (r : Repository) (before : List Request) :
    ∃ requests result,
      ((r.info? item).run replies).run.run before
        = (result.map fun files => some (r.entryFrom item files), before ++ requests)
      ∧ r.Step (r.folderOf item) requests (replies.along before requests) result := by
  obtain ⟨requests, result, hrun, hstep⟩ := folder_step h r (r.folderOf item) before
  refine ⟨requests, result, ?_, hstep⟩
  rw [run_info?_of_folder hitem hfolder, Asking.run_bind, hrun]
  cases hstep with
  | refused _ => rfl
  | failed _ _ _ => rfl
  | listed _ lists =>
    dsimp only
    rw [Asking.run_bind, run_fileNames lists.named]
    rfl

/-- What is told of the items of a listing comes of asking for the folders among them in turn. -/
theorem infos_walk (h : replies.WellFormed) (hitems : ∀ item ∈ items, item.IsItem)
    (r : Repository) (before : List Request) :
    ∃ requests result,
      ((items.filterMapM r.info?).run replies).run.run before
        = (result.map fun listings => (items.filter isFolderItem).zipWith r.entryFrom listings,
          before ++ requests)
      ∧ r.Walk ((items.filter isFolderItem).map r.folderOf) requests
        (replies.along before requests) result := by
  induction items generalizing before with
  | nil =>
    refine ⟨[], .ok [], ?_, .done⟩
    rw [List.filterMapM_nil, List.append_nil]
    rfl
  | cons item items ih =>
    obtain ⟨hitem, hitems⟩ := List.forall_mem_cons.mp hitems
    rw [List.filterMapM_cons, Asking.run_bind]
    -- only a folder is a step of the walk; what comes behind it is asked with more requests made
    cases hfolder : isFolderItem item with
    | false =>
      rw [run_info?_of_file hitem hfolder, List.filter_cons_of_neg (by simp [hfolder])]
      exact ih hitems before
    | true =>
      obtain ⟨requests, result, hrun, hstep⟩ := info?_step h hitem hfolder r before
      rw [hrun, List.filter_cons_of_pos hfolder, List.map_cons]
      cases result with
      | error e => exact ⟨requests, .error e, rfl, .stop hstep⟩
      | ok files =>
        obtain ⟨more, result, hmore, hwalk⟩ := ih hitems (before ++ requests)
        refine ⟨requests ++ more, result.map (files :: ·), ?_, ?_⟩
        · dsimp only [Except.map]
          rw [Asking.run_bind, hmore, List.append_assoc]
          cases result <;> rfl
        · rw [Replies.along_append]
          exact .next hstep hwalk

/-- The listing of the blocks, from the items of the first answer and what all answers list. -/
def listingFrom (r : Repository) (items : List Json) (listings : List (List Json)) :
    Except SourceFailure (List BlockInfo) :=
  (BlockInfo.sortByName ((items.filter isFolderItem).zipWith r.entryFrom listings.tail)).mapError
    .malformed

/-- A listing of the blocks is a walk along its itinerary. -/
theorem list_walk (h : replies.WellFormed) (r : Repository) (before : List Request) :
    ∃ items requests result, (∀ item ∈ items, item.IsItem)
      ∧ (∀ reply ∈ (replies.along before requests).head?,
        reply.status? = some 200 → reply.Lists items)
      ∧ (r.list.run replies).run.run before
        = (result.bind (r.listingFrom items), before ++ requests)
      ∧ r.Walk (r.itinerary items) requests (replies.along before requests) result := by
  obtain ⟨requests, result, hrun, hstep⟩ := folder_step h r r.blocksPath before
  rw [list, Asking.run_bind, hrun]
  generalize hseen : replies.along before requests = seen at hstep
  -- without a first answer there are no items, and the walk ends before any would be asked about
  cases hstep with
  | refused refuses => exact ⟨[], [], .error _, nofun, nofun, rfl, .stop (.refused refuses)⟩
  | @failed request reply e asked bad reports =>
    refine ⟨[], [request], .error (.source e), nofun, ?_, rfl, ?_⟩
    · rw [hseen]
      intro reply' hreply' hgood
      cases hreply'
      exact absurd hgood bad
    · rw [hseen]
      exact .stop (.failed asked bad reports)
  | @listed request reply items asked lists =>
    obtain ⟨more, result, hmore, hwalk⟩ := infos_walk h lists.named r (before ++ [request])
    refine ⟨items, [request] ++ more, result.map (items :: ·), lists.named, ?_, ?_, ?_⟩
    · rw [Replies.along_append, hseen]
      intro reply' hreply' _
      cases hreply'
      exact lists
    · dsimp only
      rw [Asking.run_bind, hmore, List.append_assoc]
      cases result with
      | error e => rfl
      | ok listings => exact Asking.run_lift _ _
    · rw [Replies.along_append, hseen]
      exact .next (.listed asked lists) hwalk

/-! ## Listings -/

/-- What comes of good answers: every folder is told of, or the next one has no address. -/
inductive Given (r : Repository) (items : List Json) (requests : List Request)
    (seen : List Reply) : Except SourceFailure (List BlockInfo) → Prop where
  /-- All folders were asked for. There is an entry for each, in the order of the first answer; the
  listing has these entries by name. -/
  | told {listings : List (List Json)} {entries blocks : List BlockInfo}
      (asked : requests.length = (r.itinerary items).length)
      (lists : List.Forall₂ Reply.Lists (items :: listings) seen)
      (each : entries.length = (items.filter isFolderItem).length)
      (describes : List.Forall₂ (fun (pair : Json × List Json) b => r.Describes pair.1 pair.2 b)
        ((items.filter isFolderItem).zip listings) entries)
      (sorted : BlockInfo.SortedFrom entries blocks) : Given r items requests seen (.ok blocks)
  | noAddress {path : String} {fault : Malformation}
      (next : (r.itinerary items)[requests.length]? = some path) (none : r.NoAddress path) :
      Given r items requests seen (.error (.malformed fault))

/-- The requests follow the itinerary of the items, and the result is what the replies give. -/
structure Follows (r : Repository) (items : List Json) (requests : List Request)
    (seen : List Reply) (result : Except SourceFailure (List BlockInfo)) : Prop where
  /-- The items are those of the first answer. -/
  first : ∀ reply ∈ seen.head?, reply.status? = some 200 → reply.Lists items
  /-- Every path is asked for once, in order; asking may end early. -/
  asks : List.Forall₂ r.Asks ((r.itinerary items).take requests.length) requests
  /-- Nothing is asked behind a reply that is not good. -/
  stops : AllGood seen.dropLast
  /-- Such a reply is why the listing fails. -/
  fails : ∀ reply ∈ seen, reply.status? ≠ some 200 →
    ∃ e : SourceError, result = .error (.source e) ∧ e.Reports reply
  gives : AllGood seen → r.Given items requests seen result

theorem listingFrom_given {listings : List (List Json)} (hitems : ∀ item ∈ items, item.IsItem)
    (hasked : requests.length = (r.itinerary items).length)
    (hlength : listings.length = (r.itinerary items).length)
    (hlists : List.Forall₂ Reply.Lists listings seen)
    (hfirst : ∀ reply ∈ seen.head?, reply.status? = some 200 → reply.Lists items) :
    r.Given items requests seen (r.listingFrom items listings) := by
  cases hlists with
  | nil => cases hlength
  | @cons items' reply listings seen lists rest =>
    cases lists.unique (hfirst reply rfl lists.good)
    have hfolders : ∀ item ∈ items.filter isFolderItem, item.IsItem :=
      fun item hitem => hitems item (List.mem_filter.mp hitem).1
    have hnamed := isNamed_entries hfolders r listings
    obtain ⟨blocks, hblocks, hsorted⟩ := BlockInfo.sortByName_sortedFrom hnamed
    rw [listingFrom, List.tail_cons, hblocks]
    apply Given.told hasked (.cons lists rest) _ (r.describes_entries _ listings) hsorted
    have hcount : listings.length = (items.filter isFolderItem).length := by
      simpa [itinerary] using hlength
    rw [List.length_zipWith, hcount, Nat.min_self]

/-- **A listing follows its itinerary.** Where good answers are listings, the folder of blocks is
asked for and then every folder that the first answer lists, once each, in this order, and up to the
first reply that is not good. The listing fails because of this reply. If there is none, every
folder is told of, with what its own answer lists, or there is no address for the next one. -/
theorem list_follows (env : Environment) (place : Location) (replies : Replies)
    (h : replies.WellFormed) (before : List Request) :
    ∃ items requests result,
      ((ofLocation env place).list.run replies).run.run before = (result, before ++ requests)
      ∧ (ofLocation env place).Follows items requests (replies.along before requests) result := by
  obtain ⟨items, requests, result, hitems, hfirst, hrun, hwalk⟩ :=
    list_walk h (ofLocation env place) before
  refine ⟨items, requests, _, hrun, hfirst, ?_, hwalk.stops, ?_, ?_⟩
  · exact hwalk.inOrder.imp fun _ _ => asks_of_request (getLast?_baseUrl env place)
  · intro reply hreply hbad
    obtain ⟨e, rfl, hreports⟩ := hwalk.fails hreply hbad
    exact ⟨e, rfl, hreports⟩
  · intro hgood
    rcases hwalk.gives hgood with
      ⟨listings, rfl, hasked, hlength, hlists⟩ | ⟨path, fault, rfl, hpath, hnone⟩
    · exact listingFrom_given hitems hasked hlength hlists hfirst
    · exact .noAddress hpath hnone

/-- The items of a listing, each with a name and a type. -/
def itemsOf (named : List (String × String)) : List Json :=
  named.map fun (name, type) => .object [("name", .string name), ("type", .string type)]

theorem lists_itemsOf (named : List (String × String)) :
    (Reply.answer 200 (Reply.bodyOf (.array (itemsOf named)))).Lists (itemsOf named) := by
  have hreadable : Json.Readable (.array (itemsOf named)) :=
    .array (List.forall_mem_map.mpr fun (name, type) _ => Json.readable_pair (by decide) name type)
  have hread := Reply.parse_bodyOf hreadable
  refine .listing (by rw [withoutMark_of_parse hread, hread]) ?_
  exact List.forall_mem_map.mpr fun (name, _) _ => ⟨name, rfl⟩

/-- Two folders and a file, not by name, and what is in the folders. -/
def sendingTabs : Replies :=
  ⟨fun before _ => .answer 200 (Reply.bodyOf (.array (itemsOf (
    match before.length with
    | 0 => [("tabs", "dir"), ("notes.md", "file"), ("hero", "dir")]
    | 1 => [("tabs.js", "file")]
    | _ => [("hero.css", "file")]))))⟩

/-- The folders are asked for in the order of their listing. -/
theorem list_follows_tabs :
    sendingTabs.WellFormed ∧ ∃ items requests result,
      ((ofLocation [] { owner := "acme", name := "site" }).list.run sendingTabs).run.run []
        = (result, [] ++ requests)
      ∧ (ofLocation [] { owner := "acme", name := "site" }).Follows items requests
        (sendingTabs.along [] requests) result := by
  have hformed : sendingTabs.WellFormed := fun before request _ => ⟨_, lists_itemsOf _⟩
  exact ⟨hformed, list_follows [] { owner := "acme", name := "site" } sendingTabs hformed []⟩

/-- A folder whose name goes over two lines. -/
def brokenFolder : Json := .object [("name", .string "a\nb"), ("type", .string "dir")]

/-- This folder is listed, whatever is asked for. -/
def sendingBroken : Replies := ⟨fun _ _ => .answer 200 (Reply.bodyOf (.array [brokenFolder]))⟩

/-- The folder is not asked for, and there is no listing, although all replies are good. -/
theorem list_brokenFolder :
    sendingBroken.WellFormed ∧ ∃ request fault,
      ((ofLocation [] { owner := "acme", name := "site" }).list.run sendingBroken).run.run []
        = (.error (.malformed fault), [request])
      ∧ AllGood (sendingBroken.along [] [request]) := by
  have hlists : ∀ before request, (sendingBroken.behind before request).Lists [brokenFolder] :=
    fun _ _ => lists_itemsOf [("a\nb", "dir")]
  generalize hr : ofLocation [] { owner := "acme", name := "site" } = r
  obtain ⟨request, hrequest⟩ : ∃ request, r.request r.blocksPath = .ok request := by
    subst hr
    exact ⟨_, rfl⟩
  obtain ⟨fault, hfault⟩ : ∃ fault, r.request (r.folderOf brokenFolder) = .error fault := by
    subst hr
    exact ⟨_, rfl⟩
  refine ⟨fun before request _ => ⟨_, hlists before request⟩, request, fault, ?_, ?_⟩
  · rw [list, Asking.run_bind, run_folder hrequest (hlists [] request)]
    dsimp only
    rw [Asking.run_bind, List.filterMapM_cons, Asking.run_bind,
      run_info?_refused ⟨"a\nb", rfl⟩ rfl hfault]
    rfl
  · exact List.forall_mem_singleton.mpr rfl

end Repository

end BlockAuthoring
