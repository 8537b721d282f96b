import ApiGloss.Proofs.Cleaning
import ApiGloss.Proofs.FileOrder
import ApiGloss.Proofs.Regrouping

/-!
# Which Declarations Reach the Endpoint Record

A declaration of a field names a group, and the endpoint record lists the declarations of every
group below the fields of its section. The group is free text, and it becomes part of a path
that is cut at dots. A declaration whose group has no dot is found in the array of its group in
the record of its endpoint: it is attached there (`Registry.hasItem_of_blockOutcome`), the
clean-up keeps the first declaration of its field, merged definitions only add to the array, and
the declarations are regrouped by the group that they name.

A declaration whose group has a dot is attached further down, in an object that the regrouping
passes over. No entry below the fields of a section has a name with a dot, so that the
declaration is never found under its group.

## Main results

* `Pipeline.declared_in_group_iff`: in a successful run, a declaration is found in the array of
  its group exactly if the group has no dot.
-/

namespace ApiGloss

open Json Record

/-! ### Endpoint blocks and their elements -/

namespace Registry

variable (r : Registry)

/-- Whether the elements of a documentation block are read into an endpoint block. -/
def readsEndpoint (path : String) (block : List Element × Nat) : Bool :=
  match ((r.parseBlock path block.2 block.1).outcome {}).1 with
  | .ok b => b.index != 0 && Filter.isEndpoint b
  | .error _ => false

/-- The **elements of the endpoint blocks** of a source file, block by block. -/
def endpointElements (u : SourceUnit) : List (List Element) :=
  ((r.documentation u).filter (r.readsEndpoint u.path)).map Prod.fst

/-- The documentation blocks of a source file that can be read. -/
theorem exists_records_of_sourceOutcome {r : Registry} {u : SourceUnit}
    {file : Option ParsedFile} (h : r.sourceOutcome u = .ok file) :
    ∃ records, List.Forall₂ (fun block b => r.blockOutcome u.path block.2 block.1 = .ok b)
      (r.documentation u) records ∧ file = fileOf? u.path records := by
  obtain ⟨records, hrecords, hfile⟩ := Run.bind_eq_ok_iff.mp h
  exact ⟨records, Run.mapM_eq_ok_iff.mp hrecords, (Except.ok.inj hfile).symm⟩

/-- The blocks of the file that is made of records. -/
theorem flatMap_fileOf? {α : Type} (f : ParsedFile → List α) (path : String)
    (records : List BlockRecord) (hf : f ⟨path, []⟩ = []) :
    (fileOf? path records).toList.flatMap f = f ⟨path, records.filter (·.index != 0)⟩ := by
  unfold fileOf?
  dsimp only
  split
  · rename_i hempty
    rw [List.isEmpty_iff.mp hempty, hf]
    rfl
  · rw [Option.toList_some, List.flatMap_singleton]

/-- **Endpoint blocks and their elements** correspond in order. -/
theorem forall₂_endpointElements {r : Registry} {u : SourceUnit} {records : List BlockRecord}
    (h : List.Forall₂ (fun block b => r.blockOutcome u.path block.2 block.1 = .ok b)
      (r.documentation u) records) :
    List.Forall₂ (fun elements b => ∃ index, r.blockOutcome u.path index elements = .ok b)
      (r.endpointElements u) ((records.filter (·.index != 0)).filter Filter.isEndpoint) := by
  unfold endpointElements
  rw [List.filter_filter]
  generalize r.documentation u = blocks at h ⊢
  induction h with
  | nil => exact List.Forall₂.nil
  | @cons block b blocks records hb _ ih =>
      have hreads : r.readsEndpoint u.path block = (Filter.isEndpoint b && b.index != 0) := by
        unfold readsEndpoint
        rw [r.parseBlock_yields u.path block.2 block.1 {}, hb, Bool.and_comm]
      rw [List.filter_cons, List.filter_cons, hreads]
      split
      · exact List.Forall₂.cons ⟨block.2, hb⟩ ih
      · exact ih

/-- What stands on the right of a correspondence has a counterpart on the left. -/
theorem exists_of_forall₂_right {α β : Type} {R : α → β → Prop} {l : List α} {l' : List β}
    (h : List.Forall₂ R l l') {b : β} (hb : b ∈ l') : ∃ a ∈ l, R a b := by
  induction h with
  | nil => cases hb
  | cons hab _ ih =>
      rcases List.mem_cons.mp hb with rfl | hb
      · exact ⟨_, List.mem_cons_self, hab⟩
      · obtain ⟨a, ha, haR⟩ := ih hb
        exact ⟨a, List.mem_cons_of_mem _ ha, haR⟩

/-- The blocks of a file come from the documentation blocks of its source file. -/
theorem exists_blockOutcome_of_mem {r : Registry} {u : SourceUnit} {file : ParsedFile}
    (h : r.file? u = some file) {b : BlockRecord} (hb : b ∈ file.blocks) :
    ∃ block ∈ r.documentation u, r.blockOutcome u.path block.2 block.1 = .ok b := by
  unfold file? at h
  split at h
  · rename_i found hfound
    obtain ⟨records, hrecords, hfile⟩ := exists_records_of_sourceOutcome hfound
    have hmem : b ∈ records := by
      have hflat := flatMap_fileOf? ParsedFile.blocks u.path records rfl
      rw [← hfile, h, Option.toList_some, List.flatMap_singleton] at hflat
      exact List.mem_of_mem_filter (hflat ▸ hb)
    exact exists_of_forall₂_right hrecords hmem
  · cases h

end Registry

namespace Pipeline

open Resolve Registry

/-- All blocks that are read and cleaned up have plain sections. -/
theorem plainSection_cleaned {registry : Registry} (hreaders : registry.readers = Tag.builtin)
    (units : List SourceUnit) (kind : FieldKind) :
    ∀ b ∈ allBlocks ((units.filterMap registry.file?).map (mapFile fun _ => Filter.cleanAll)),
      ∀ e ∈ b.locals, PlainSection kind e.1 e.2 := by
  rw [allBlocks_mapFile]
  intro b hb
  obtain ⟨file, hfile, hb⟩ := List.mem_flatMap.mp hb
  obtain ⟨c, hc, rfl⟩ := List.mem_map.mp hb
  obtain ⟨u, -, hu⟩ := List.mem_filterMap.mp hfile
  obtain ⟨block, -, hblock⟩ := exists_blockOutcome_of_mem hu hc
  obtain ⟨hcleaned, -⟩ := Filter.hasItem_cleanAll (declared_of_blockOutcome hreaders hblock kind)
  exact fun e he => plainSection_of_declared (hcleaned e he)

/-- A declaration of a field with a name. -/
def NamesField (name : String) (item : Json) : Prop :=
  item.getStr? "field" = some name

/-- **A declaration reaches the array of its group exactly if the group has no dot.** In a
successful run of the built-in tags, clean-ups and resolvers, the records correspond to the
endpoint blocks in order. For every field tag of an endpoint block that is read as a declaration,
the record of the block lists the field in the array of its group if there is no dot in the
group; otherwise there is no such array. -/
theorem declared_in_group_iff {registry : Registry} (hreaders : registry.readers = Tag.builtin)
    (workDir defaultVersion : String) {units : List SourceUnit} {j : Journal}
    {records : List Json}
    (h : (((withBuiltins registry workDir defaultVersion).endpoints units).outcome j).1 =
      .ok records) :
    List.Forall₂
      (fun elements record => ∀ e ∈ elements, ∀ kind : FieldKind,
        e.name = Text.lower kind.tag → ∀ d,
        FieldDecl.parse? (Text.trim e.content) kind.defaultGroup = some d →
          (HasItem (NamesField d.field) [kind.sectionName, "fields", d.group] record ↔
            '.' ∉ d.group.toList))
      (units.flatMap registry.endpointElements) records := by
  rw [endpoints_yields, endpointsOutcome_eq_ok_iff] at h
  obtain ⟨hread, resolved, hprocess, rfl⟩ := h
  obtain ⟨change, hchange⟩ := exists_change_of_process hprocess
  rw [hchange.after_eq, records_eq_flatMap_contribution, List.flatMap_def, List.flatMap_def]
  refine List.rel_flatten (List.forall₂_map_left_iff.mpr (List.forall₂_map_right_iff.mpr
    (List.forall₂_same.mpr fun u hu => ?_)))
  obtain ⟨file, hfile⟩ := hread u hu
  obtain ⟨found, hfound, rfl⟩ := exists_records_of_sourceOutcome hfile
  have hfile? : registry.file? u = fileOf? u.path found := by
    rw [file?, hfile]
  rw [contribution, hfile?, flatMap_fileOf? _ _ _ rfl, List.forall₂_map_right_iff]
  refine (forall₂_endpointElements hfound).imp ?_
  rintro elements b ⟨index, hb⟩ e he kind hname d hd
  have hdeclared := declared_of_blockOutcome hreaders hb kind
  obtain ⟨hcleaned, hitems⟩ := Filter.hasItem_cleanAll hdeclared
  constructor
  · intro hin hdot
    refine not_hasItem_of_plain ?_ hdot hin
    exact hchange.keeps _ _ (resolvingKeeps_plainSection kind) (resolvingKeeps_plainSection kind)
      (plainSection_cleaned hreaders units kind) u.path _
      fun e he => plainSection_of_declared (hcleaned e he)
  · intro hdot
    have hdistinct := registry.readingKeeps_distinct.blockOutcome hreaders List.nodup_nil hb
    have hread := hasItem_of_blockOutcome hreaders hb he hname hd hdot
    have hkept := hchange.keeps _ _ (resolvingKeeps_hasItem kind d.group d.field)
      resolvingKeeps_true (fun _ _ => trivial) u.path _
      ⟨Filter.distinct_cleanAll hdistinct, hitems _ _ hread⟩
    exact hkept.2.imp fun item hitem => hitem.2

/-- An endpoint with one field in a group with a dot and another one in a group without. -/
def dottedUnits : List SourceUnit :=
  [⟨"a.js", "/** @api {get} /a A\n @apiParam (v1.0) x\n @apiParam (v2) y */", "js"⟩]

/-- The field in the group with a dot is lost, the other one is found. -/
theorem declared_in_group_iff_dotted :
    ∃ record,
      (((withBuiltins {} "/" "0.0.0").endpoints dottedUnits).outcome {}).1 = .ok [record] ∧
      ¬ HasItem (NamesField "x") ["parameter", "fields", "v1.0"] record ∧
      HasItem (NamesField "y") ["parameter", "fields", "v2"] record := by
  have hsome : (((withBuiltins {} "/" "0.0.0").endpoints dottedUnits).outcome {}).1.toOption.isSome
      = true := by decide +kernel
  have helements : dottedUnits.flatMap (Registry.endpointElements {}) =
      [[⟨"api", "api", "{get} /a A", "@api {get} /a A"⟩,
        ⟨"apiParam", "apiparam", "(v1.0) x", "@apiParam (v1.0) x"⟩,
        ⟨"apiParam", "apiparam", "(v2) y", "@apiParam (v2) y"⟩]] := by decide +kernel
  have hx : FieldDecl.parse? (Text.trim "(v1.0) x") "Parameter" =
      some { group := "v1.0", field := "x" } := by decide +kernel
  have hy : FieldDecl.parse? (Text.trim "(v2) y") "Parameter" =
      some { group := "v2", field := "y" } := by decide +kernel
  have hname : "apiparam" = Text.lower FieldKind.parameter.tag := by decide +kernel
  cases hrun : (((withBuiltins {} "/" "0.0.0").endpoints dottedUnits).outcome {}).1 with
  | error e =>
      rw [hrun] at hsome
      cases hsome
  | ok records =>
      have hall := declared_in_group_iff rfl "/" "0.0.0" hrun
      rw [helements] at hall
      obtain ⟨record, rest, hrecord, hrest, rfl⟩ := List.forall₂_cons_left_iff.mp hall
      obtain rfl := List.forall₂_nil_left_iff.mp hrest
      refine ⟨record, rfl, ?_, ?_⟩
      · intro hin
        have hdot := (hrecord ⟨"apiParam", "apiparam", "(v1.0) x", "@apiParam (v1.0) x"⟩ (by decide)
          .parameter hname _ hx).mp hin
        exact hdot (by decide)
      · exact (hrecord ⟨"apiParam", "apiparam", "(v2) y", "@apiParam (v2) y"⟩ (by decide)
          .parameter hname _ hy).mpr (by decide)

end Pipeline

end ApiGloss
