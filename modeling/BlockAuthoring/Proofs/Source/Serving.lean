import BlockAuthoring.Proofs.Json.RoundTrip
import BlockAuthoring.Proofs.Source.Contents

/-!
# A service for every disk

Whatever lies on a disk, there is a service that shows it.
-/

namespace BlockAuthoring

/-! ## Replies -/

/-- The body that writes a value. -/
def Reply.bodyOf (v : Json) : String := String.ofList (Json.print 0 v ++ ['\n'])

theorem Reply.parse_bodyOf {v : Json} (h : Json.Readable v) :
    Json.parse (bodyOf v).toList = .ok v := by
  rw [bodyOf, String.toList_ofList, h.parse_print]

theorem Json.readable_pair {key key' : String} (h : key ≠ key') (s s' : String) :
    Readable (.object [(key, .string s), (key', .string s')]) := by
  refine .object (by simpa using h) fun m hm => ?_
  simp only [List.mem_cons, List.not_mem_nil, or_false] at hm
  rcases hm with rfl | rfl <;> exact .string _

namespace Disk

/-- The item of a name in a listing. -/
def itemOf (d : Disk) (l : Location) (name : String) : Json :=
  .object [("name", .string name), ("type", .string ((d.node? (l ++ [name])).elim "" Node.kind))]

/-- The content of a file. -/
def contentOf (bytes : List UInt8) : Json :=
  .object [("type", .string "file"), ("content", .string (String.ofList (Text.Base64.encode bytes)))]

/-- The reply that shows what lies at a location. -/
def replyFor (d : Disk) (l : Location) : Reply :=
  match d.node? l with
  | some .folder => .answer 200 (Reply.bodyOf (.array ((d.namesAt l).map (d.itemOf l))))
  | some (.file bytes) => .answer 200 (Reply.bodyOf (contentOf bytes))
  | none => .answer 404 "Not Found"

theorem listedBy_items (d : Disk) (l : Location) :
    d.ListedBy l ((d.namesAt l).map (d.itemOf l)) where
  each := by
    refine List.forall_mem_map.mpr fun name hname => ?_
    obtain ⟨n, hn⟩ := Option.isSome_iff_exists.mp (mem_namesAt_iff.mp hname)
    exact ⟨name, n, hn, rfl, by rw [itemOf, hn]; rfl⟩
  complete := by
    rw [List.map_map]
    exact .refl _

theorem shows_replyFor (d : Disk) (l : Location) : (d.replyFor l).Shows d l := by
  unfold replyFor
  split
  · rename_i hlies
    refine .folder hlies (Reply.parse_bodyOf (.array ?_)) (listedBy_items d l)
    exact List.forall_mem_map.mpr fun name _ => Json.readable_pair (by decide) name _
  · rename_i bytes hlies
    refine .file hlies (Reply.parse_bodyOf (Json.readable_pair (by decide) _ _)) rfl rfl ?_ ?_
    · rw [String.toList_ofList]
      exact Text.Base64.ascii_encode bytes
    · rw [String.toList_ofList, Text.Base64.filter_encode]
  · rename_i hlies
    exact .missing hlies

end Disk

/-! ## Services -/

namespace Repository

/-- The service that shows what lies behind a location of a disk. -/
def serving (r : Repository) (d : Disk) (l : List String) : Service := fun request =>
  let front := (r.root ++ r.blocksPath).toList
  match request.address.plainPath with
  | some path =>
    if front.isPrefixOf path.toList then
      d.replyFor (l ++ (Path.ofString (String.ofList (path.toList.drop front.length))).names)
    else .answer 404 "Not Found"
  | none => .answer 404 "Not Found"

/-- The text that leads from the folder of blocks to a place below it. -/
def steps (names : List String) : List Char := names.flatMap fun name => '/' :: name.toList

theorem toList_pathTo (r : Repository) (names : List String) :
    (r.pathTo names).toList = r.blocksPath.toList ++ steps names := by
  unfold pathTo
  generalize r.blocksPath = path
  induction names generalizing path with
  | nil => simp [steps]
  | cons name names ih =>
    rw [List.foldl_cons, ih, steps, steps, List.flatMap_cons]
    simp

theorem steps_eq_joined {names : List String} (h : names ≠ []) :
    steps names = '/' :: Path.joined names := by
  induction names with
  | nil => exact absurd rfl h
  | cons name names ih =>
    rw [steps, List.flatMap_cons, ← steps]
    cases names with
    | nil => simp [steps, Path.joined]
    | cons next names =>
      rw [ih (by simp), Path.joined, Path.joined]
      simp [List.intercalate_cons_cons]

/-- The steps are found again in their text. -/
theorem names_ofString_steps {names : List String} (h : ∀ name ∈ names, Path.IsFileName name) :
    (Path.ofString (String.ofList (steps names))).names = names := by
  by_cases hne : names = []
  · subst hne
    rfl
  · have htext : String.ofList (steps names) = Path.toString ⟨1, names⟩ := by
      rw [← String.toList_inj, String.toList_ofList, steps_eq_joined hne,
        Path.toList_toString (by simp)]
      rfl
    rw [htext, Path.ofString_toString ⟨by simp, h⟩]

/-- **Every disk can be served.** -/
theorem serves_serving (r : Repository) (d : Disk) (l : List String) :
    r.Serves (r.serving d l) d l := by
  intro request names hnames hpath
  have hfront : (r.root ++ r.pathTo names).toList
      = (r.root ++ r.blocksPath).toList ++ steps names := by
    simp [toList_pathTo]
  have hreply : r.serving d l request = d.replyFor (l ++ names) := by
    simp only [serving, hpath, hfront, List.drop_left,
      names_ofString_steps fun name hname => (hnames name hname).1]
    rw [if_pos (List.isPrefixOf_iff_prefix.mpr (List.prefix_append _ _))]
  rw [hreply]
  exact d.shows_replyFor (l ++ names)

end Repository

end BlockAuthoring
