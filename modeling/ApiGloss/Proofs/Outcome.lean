import ApiGloss.Pipeline
import Mathlib.Data.List.Forall2

/-!
# Outcomes Do Not Depend on the Journal

Reading source text writes warnings to a journal, and which deprecated tags are still to be
reported depends on what was read before. None of this decides what is read: a run from one
journal succeeds or fails like a run from any other, with the same result. This module gives
every stage of the pipeline a counterpart without a journal and shows that the stage
**yields** it, from every journal.

## Main results

* `Registry.parseSource_yields`, `Registry.parseSources_yields`: reading files.
* `Pipeline.endpoints_yields`: the whole run up to the resolved endpoint records.
* `Pipeline.generate_yields`: the whole run up to the document.
-/

namespace ApiGloss

namespace Run

variable {α β : Type}

/-- A computation **yields** an outcome if it has that outcome from every journal. -/
def Yields (x : Run α) (r : Except Error α) : Prop :=
  ∀ j, (x.outcome j).1 = r

/-- A value is yielded as it is. -/
theorem yields_pure (a : α) : Yields (pure a) (.ok a) :=
  fun _ => rfl

/-- A failure is yielded as it is. -/
theorem yields_throw (e : Error) : Yields (throw e : Run α) (.error e) :=
  fun _ => rfl

/-- Writing to the journal yields nothing of interest. -/
theorem yields_modify (f : Journal → Journal) : Yields (modify f : Run Unit) (.ok ()) :=
  fun _ => rfl

/-- One computation after the other yields one outcome after the other. -/
theorem Yields.bind {x : Run α} {r : Except Error α} {f : α → Run β}
    {s : α → Except Error β} (hx : Yields x r) (hf : ∀ a, Yields (f a) (s a)) :
    Yields (x >>= f) (r >>= s) := by
  intro j
  have hxj := hx j
  show ((ExceptT.run (x >>= f)).run j).1 = r >>= s
  change ((ExceptT.run x).run j).1 = r at hxj
  rw [ExceptT.run_bind, StateT.run_bind]
  generalize (ExceptT.run x).run j = out at hxj ⊢
  obtain ⟨result, j'⟩ := out
  cases hxj
  cases result with
  | error e => rfl
  | ok a => exact hf a j'

/-- Going through a list yields the outcomes in order. -/
theorem yields_mapM {f : α → Run β} {s : α → Except Error β} (h : ∀ a, Yields (f a) (s a))
    (l : List α) : Yields (l.mapM f) (l.mapM s) := by
  induction l with
  | nil =>
      rw [List.mapM_nil, List.mapM_nil]
      exact yields_pure []
  | cons a rest ih =>
      rw [List.mapM_cons, List.mapM_cons]
      exact (h a).bind fun b => ih.bind fun bs => yields_pure (b :: bs)

/-- Folding over a list yields the outcome of the fold. -/
theorem yields_foldlM {f : β → α → Run β} {s : β → α → Except Error β}
    (h : ∀ b a, Yields (f b a) (s b a)) (l : List α) (b : β) :
    Yields (l.foldlM f b) (l.foldlM s b) := by
  induction l generalizing b with
  | nil =>
      rw [List.foldlM_nil, List.foldlM_nil]
      exact yields_pure b
  | cons a rest ih =>
      rw [List.foldlM_cons, List.foldlM_cons]
      exact (h b a).bind fun b' => ih b'

/-! ### Successful outcomes -/

/-- One outcome after the other succeeds if both do. -/
theorem bind_eq_ok_iff {ε : Type} {x : Except ε α} {f : α → Except ε β} {b : β} :
    (x >>= f) = .ok b ↔ ∃ a, x = .ok a ∧ f a = .ok b := by
  cases x with
  | error e => exact ⟨fun h => (nomatch h), fun ⟨_, h, _⟩ => (nomatch h)⟩
  | ok a =>
      refine ⟨fun h => ⟨a, rfl, h⟩, ?_⟩
      rintro ⟨a', ha', h⟩
      cases ha'
      exact h

/-- Outcomes in order succeed if every one of them does. -/
theorem mapM_eq_ok_iff {ε : Type} {f : α → Except ε β} {l : List α} {bs : List β} :
    l.mapM f = .ok bs ↔ List.Forall₂ (fun a b => f a = .ok b) l bs := by
  induction l generalizing bs with
  | nil =>
      rw [List.mapM_nil, List.forall₂_nil_left_iff]
      exact ⟨fun h => (Except.ok.inj h).symm, fun h => h ▸ rfl⟩
  | cons a rest ih =>
      rw [List.mapM_cons, bind_eq_ok_iff, List.forall₂_cons_left_iff]
      refine exists_congr fun b => ?_
      rw [bind_eq_ok_iff]
      refine ⟨?_, ?_⟩
      · rintro ⟨ha, bs', hrest, hbs⟩
        exact ⟨bs', ha, ih.mp hrest, (Except.ok.inj hbs).symm⟩
      · rintro ⟨bs', ha, hrest, rfl⟩
        exact ⟨ha, bs', ih.mpr hrest, rfl⟩

/-- There are outcomes in order if there is one for every element. -/
theorem exists_mapM_eq_ok_iff {ε : Type} {f : α → Except ε β} {l : List α} :
    (∃ bs, l.mapM f = .ok bs) ↔ ∀ a ∈ l, ∃ b, f a = .ok b := by
  simp only [mapM_eq_ok_iff]
  induction l with
  | nil => exact iff_of_true ⟨[], .nil⟩ (List.forall_mem_nil _)
  | cons a rest ih =>
      rw [List.forall_mem_cons, ← ih]
      constructor
      · rintro ⟨_, h⟩
        obtain ⟨b, bs, hb, hbs, rfl⟩ := List.forall₂_cons_left_iff.mp h
        exact ⟨⟨b, hb⟩, bs, hbs⟩
      · rintro ⟨⟨b, hb⟩, bs, hbs⟩
        exact ⟨b :: bs, .cons hb hbs⟩

end Run

namespace Registry

open Run

variable (r : Registry)

/-! ### Reading without a journal -/

/-- What comes of one element. -/
def elementOutcome (file : String) (index : Nat) (st : BlockState) (e : Element) :
    Except Error BlockState :=
  match Table.get? e.name r.readers with
  | none => .ok st
  | some reader =>
    match r.readElement reader index e st with
    | .ok st => .ok st
    | .error cause => .error (.element cause file (index + 1) e.sourceName e.source)

/-- What comes of the elements of a block. -/
def blockOutcome (file : String) (index : Nat) (elements : List Element) :
    Except Error BlockRecord := do
  let st ← elements.foldlM (r.elementOutcome file index) {}
  return st.record

/-- The file that is made of the records of its documentation blocks. -/
def fileOf? (path : String) (records : List BlockRecord) : Option ParsedFile :=
  let blocks := records.filter (·.index != 0)
  if blocks.isEmpty then none else some ⟨path, blocks⟩

/-- What comes of a source file. -/
def sourceOutcome (u : SourceUnit) : Except Error (Option ParsedFile) := do
  let records ← (r.documentation u).mapM fun (elements, index) =>
    r.blockOutcome u.path index elements
  return fileOf? u.path records

/-- What comes of source files. -/
def sourcesOutcome (units : List SourceUnit) : Except Error (List ParsedFile) := do
  let files ← units.mapM r.sourceOutcome
  return files.filterMap id

/-! ### Each stage yields its outcome -/

/-- One element yields its outcome: the warnings before it change nothing. -/
theorem step_yields (file : String) (index : Nat) (st : BlockState) (e : Element) :
    Yields (r.step file index st e) (r.elementOutcome file index st e) := by
  unfold step elementOutcome
  cases Table.get? e.name r.readers with
  | none => exact (yields_modify _).bind fun _ => yields_pure st
  | some reader =>
      have hread : Yields
          (match r.readElement reader index e st with
            | .ok st => return st
            | .error cause => throw (.element cause file (index + 1) e.sourceName e.source))
          (match r.readElement reader index e st with
            | .ok st => .ok st
            | .error cause => .error (.element cause file (index + 1) e.sourceName e.source)) := by
        cases r.readElement reader index e st with
        | ok st => exact yields_pure st
        | error cause => exact yields_throw _
      by_cases hdep : reader.deprecated = true
      · simp only [hdep, if_true]
        exact (yields_modify _).bind fun _ => hread
      · simp only [hdep]
        exact hread

/-- The elements of a block yield its record. -/
theorem parseBlock_yields (file : String) (index : Nat) (elements : List Element) :
    Yields (r.parseBlock file index elements) (r.blockOutcome file index elements) :=
  (yields_foldlM (r.step_yields file index) elements {}).bind fun st => yields_pure st.record

/-- **A source file yields its blocks.** -/
theorem parseSource_yields (u : SourceUnit) :
    Yields (r.parseSource u) (r.sourceOutcome u) := by
  unfold parseSource sourceOutcome
  refine (yields_mapM ?_ (r.documentation u)).bind fun records => ?_
  · rintro ⟨elements, index⟩
    exact r.parseBlock_yields u.path index elements
  · exact yields_pure (fileOf? u.path records)

/-- **Source files yield their blocks**, file by file. -/
theorem parseSources_yields (units : List SourceUnit) :
    Yields (r.parseSources units) (r.sourcesOutcome units) :=
  (yields_mapM r.parseSource_yields units).bind fun files => yields_pure (files.filterMap id)

end Registry

namespace Pipeline

open Run

/-- What comes of a run up to the resolved endpoint records. -/
def endpointsOutcome (p : Pipeline) (units : List SourceUnit) : Except Error (List Json) := do
  let files ← p.registry.sourcesOutcome units
  let cleaned := Filter.process p.filters files
  let resolved ← Resolve.process p.defaultVersion p.resolvers cleaned.1
  return Filter.records resolved cleaned.2

/-- **A run yields its endpoint records**, whatever the journal says. -/
theorem endpoints_yields (p : Pipeline) (units : List SourceUnit) :
    Yields (p.endpoints units) (p.endpointsOutcome units) := by
  refine (p.registry.parseSources_yields units).bind fun files => ?_
  dsimp only
  cases Resolve.process p.defaultVersion p.resolvers (Filter.process p.filters files).1 with
  | error e => exact yields_throw e
  | ok resolved => exact yields_pure _

end Pipeline

/-! ### Documents -/

namespace Document

open Run

/-- What comes of adding an endpoint record. -/
def recordOutcome (d : Document) (record : Json) : Except Error Document :=
  match Endpoint.ofJson? record with
  | none => .error .shape
  | some e => .ok (d.addEndpoint e).1

/-- What comes of building the document of endpoint records. -/
def buildOutcome (info : Info) (records : List Json) : Except Error Document :=
  records.foldlM recordOutcome { info }

/-- One endpoint record yields its outcome: endpoints that are passed over only leave a
warning. -/
theorem addRecord_yields (d : Document) (record : Json) :
    Yields (d.addRecord record) (d.recordOutcome record) := by
  unfold addRecord recordOutcome
  cases Endpoint.ofJson? record with
  | none => exact yields_throw _
  | some e =>
      dsimp only
      cases (d.addEndpoint e).2 with
      | none => exact yields_pure _
      | some w => exact (yields_modify _).bind fun _ => yields_pure _

/-- **Endpoint records yield their document.** -/
theorem build_yields (info : Info) (records : List Json) :
    Yields (build info records) (buildOutcome info records) :=
  yields_foldlM addRecord_yields records { info }

end Document

namespace Pipeline

open Run

/-- What comes of a run up to the document. -/
def generateOutcome (p : Pipeline) (units : List SourceUnit) (package : Package) :
    Except Error Document := do
  Document.buildOutcome package.toInfo (← p.endpointsOutcome units)

/-- **A run yields its document**, whatever the journal says. -/
theorem generate_yields (p : Pipeline) (units : List SourceUnit) (package : Package) :
    Yields (p.generate units package) (p.generateOutcome units package) :=
  (p.endpoints_yields units).bind fun records => Document.build_yields package.toInfo records

end Pipeline

end ApiGloss
