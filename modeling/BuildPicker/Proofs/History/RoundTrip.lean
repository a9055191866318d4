import BuildPicker.Loading.History
import BuildPicker.Proofs.Document.Fields
import BuildPicker.Proofs.Document.JsonReading
import BuildPicker.Proofs.History.Loading

/-!
Builds and snapshots, read back from the documents that are made of them.

A field that is left out of a document is restored by its default, so every outcome, cause,
build and snapshot is given back as it was. The documents hold nothing that could not be
written as JSON.
-/

namespace BuildPicker

open BuildPicker.Text
open BuildPicker.Json (IsWritable)

namespace Document

theorem isWritable_getD {α : Type} {write : α → Document} (h : ∀ a, IsWritable (write a))
    (o : Option α) : IsWritable ((o.map write).getD .null) := by
  cases o with
  | none => exact .null
  | some a => exact h a

theorem isWritable_sequence {α : Type} {write : α → Document} (h : ∀ a, IsWritable (write a))
    (as : List α) : IsWritable (.sequence (as.map write)) := by
  refine .sequence fun d hd => ?_
  obtain ⟨a, -, rfl⟩ := List.mem_map.1 hd
  exact h a

theorem isWritable_numbers (t : Table UInt32) :
    IsWritable (.ofFields (t.entries.map fun (name, n) => (name, .number n))) := by
  refine .fields fun field hfield => ?_
  obtain ⟨e, -, rfl⟩ := List.mem_map.1 hfield
  exact .number e.2

end Document

namespace Outcome

theorem ofName?_name (o : Outcome) : ofName? o.name = some o := by
  cases o <;> rfl

theorem ofDocument?_toDocument (o : Outcome) : ofDocument? .json o.toDocument = some o :=
  ofName?_name o

end Outcome

namespace Cause

theorem ofDocument?_triggered (r : BuildRef) :
    ofDocument? .json (triggered r).toDocument = some (triggered r) := by
  have hreadable : (triggered r).toDocument.isReadable .json (levels .json) := by
    change ((Document.number r.number).isReadable .json 120 && true) = true
    rw [Document.isReadable_number, Bool.and_true]
  have hfields : ofDocument? .json (triggered r).toDocument =
      ofFields? .json "upstream" [("job", .quoted r.job), ("number", .number r.number)] := by
    unfold ofDocument?
    rw [hreadable]
    rfl
  have hnumber : ((Document.number r.number).plain? .json).bind Plain.number? = some r.number := by
    rw [Document.plain?_number, Option.bind_some, Plain.number?]
    exact uint32?_eq_some_iff.2 rfl
  rw [hfields]
  change (((Document.number r.number).plain? .json).bind Plain.number?).bind _ = _
  rw [hnumber]
  rfl

theorem ofDocument?_toDocument (c : Cause) : ofDocument? .json c.toDocument = some c := by
  cases c with
  | triggered r => exact ofDocument?_triggered r
  | user id => cases id <;> rfl
  | timer => rfl
  | other description => rfl

theorem isWritable_toDocument (c : Cause) : IsWritable c.toDocument := by
  cases c with
  | triggered r => exact .fields (by simp [IsWritable.string, IsWritable.number])
  | user id =>
      have hid := Document.isWritable_getD IsWritable.string id
      exact .fields (by simp [IsWritable.string, hid])
  | timer => exact .fields (by simp [IsWritable.string])
  | other description => exact .fields (by simp [IsWritable.string])

end Cause

/-! ### Fields that may be left out -/

section

variable (name : String)

@[simp] theorem lookup_entryUnless (nothing : Bool) (other : String) (d : Document) :
    (Build.entryUnless nothing name d).lookup other =
      if other = name then if nothing then none else some d else none := by
  by_cases h : other = name
  · cases nothing <;> simp [Build.entryUnless, h]
  · cases nothing <;> simp [Build.entryUnless, List.lookup_cons, h, beq_eq_false_iff_ne.2 h]

theorem map_entryUnless_sublist (nothing : Bool) (d : Document) :
    ((Build.entryUnless nothing name d).map Prod.fst).Sublist [name] := by
  cases nothing with
  | true => exact List.nil_sublist _
  | false => exact .refl _

theorem map_toList_sublist {α : Type} (o : Option α) (write : α → Document) :
    ((o.map fun a => (name, write a)).toList.map Prod.fst).Sublist [name] := by
  cases o with
  | none => exact List.nil_sublist _
  | some a => exact .refl _

theorem isWritable_of_mem_entryUnless (nothing : Bool) {d : Document} (hd : IsWritable d) :
    ∀ field ∈ Build.entryUnless nothing name d, IsWritable field.2 := by
  cases nothing with
  | true => exact List.forall_mem_nil _
  | false => exact List.forall_mem_singleton.2 hd

theorem isWritable_of_mem_toList {α : Type} {write : α → Document} (h : ∀ a, IsWritable (write a))
    (o : Option α) :
    ∀ field ∈ (o.map fun a => (name, write a)).toList, IsWritable field.2 := by
  cases o with
  | none => exact List.forall_mem_nil _
  | some a => exact List.forall_mem_singleton.2 (h a)

end

namespace Build

/-- The fields are the declared ones, of which some are left out. -/
theorem fields_sublist (b : Build) : (b.fields.map Prod.fst).Sublist fieldNames := by
  simp only [fields, List.map_append]
  have hgiven : ["job", "number"].Sublist ["job", "number"] := .refl _
  have hfirst := (hgiven.append (map_toList_sublist "display_name" b.givenName .quoted)).append
    (.refl ["result"])
  exact (hfirst.append (map_entryUnless_sublist "causes" _ _)).append
    (map_entryUnless_sublist "upstream_builds" _ _)

theorem ofDocument?_toDocument (b : Build) : ofDocument? .json b.toDocument = some b := by
  have hfields : b.toDocument.fields? .json fieldNames = some b.fields :=
    Document.fields?_ofFields (by decide) b.fields_sublist
  have hjob : defaulted? b.fields "job" (Document.text? .json) "" = some b.job := rfl
  have hnumber : required? b.fields "number" (Document.number? .json) = some b.number :=
    Document.number?_number b.number
  have hname : defaulted? b.fields "display_name"
      (Document.nullable? .json (Document.text? .json)) none = some b.givenName := by
    refine defaulted?_eq_some_of_map ?_ (Document.text?_quoted .json) (Document.isNull_quoted .json)
    simp [fields, List.lookup_append, List.lookup_cons]
  have houtcome : defaulted? b.fields "result"
      (Document.nullable? .json (Outcome.ofDocument? .json)) none = some b.outcome := by
    refine defaulted?_eq_some ?_
      (Document.nullable?_getD Outcome.ofDocument?_toDocument (fun _ => rfl) b.outcome)
    simp [fields, List.lookup_append, List.lookup_cons]
  have hcauses : defaulted? b.fields "causes"
      (Document.list? .json (Cause.ofDocument? .json)) [] = some b.causes := by
    refine defaulted?_eq_some_of_ite ?_
      (Document.list?_sequence Cause.ofDocument?_toDocument b.causes) List.isEmpty_iff.1
    simp [fields, List.lookup_append, List.lookup_cons]
  have hdependencies : defaulted? b.fields "upstream_builds"
      (Document.table? .json (Document.number? .json)) .empty = some b.dependencies := by
    refine defaulted?_eq_some_of_ite ?_
      (Document.table?_ofFields Document.number?_number b.dependencies) Table.isEmpty_iff.1
    simp [fields, List.lookup_append, List.lookup_cons]
  simp [ofDocument?, hfields, hjob, hnumber, hname, houtcome, hcauses, hdependencies]

theorem isWritable_toDocument (b : Build) : IsWritable b.toDocument := by
  have houtcome := Document.isWritable_getD (fun o : Outcome => .string o.name) b.outcome
  have hname := isWritable_of_mem_toList "display_name" IsWritable.string b.givenName
  have hcauses := isWritable_of_mem_entryUnless "causes" b.causes.isEmpty
    (Document.isWritable_sequence Cause.isWritable_toDocument b.causes)
  have hdependencies := isWritable_of_mem_entryUnless "upstream_builds" b.dependencies.isEmpty
    (Document.isWritable_numbers b.dependencies)
  refine .fields ?_
  simp only [fields, List.forall_mem_append]
  refine ⟨⟨⟨⟨?_, hname⟩, ?_⟩, hcauses⟩, hdependencies⟩
  · exact List.forall_mem_cons.2 ⟨.string b.job, List.forall_mem_singleton.2 (.number b.number)⟩
  · exact List.forall_mem_singleton.2 houtcome

end Build

namespace JobSnapshot

theorem fields_sublist (s : JobSnapshot) : (s.fields.map Prod.fst).Sublist fieldNames := by
  simp only [fields, List.map_append]
  exact (((List.Sublist.refl ["name"]).append (map_toList_sublist _ _ _)).append
    (map_entryUnless_sublist _ _ _)).append (.refl ["builds"])

theorem ofDocument?_toDocument (s : JobSnapshot) : ofDocument? .json s.toDocument = some s := by
  have hfields : s.toDocument.fields? .json fieldNames = some s.fields :=
    Document.fields?_ofFields (by decide) s.fields_sublist
  have hname : required? s.fields "name" (Document.text? .json) = some s.name := rfl
  have hroot : defaulted? s.fields "root"
      (Document.nullable? .json (Document.text? .json)) none = some s.root := by
    refine defaulted?_eq_some_of_map ?_ (Document.text?_quoted .json) (Document.isNull_quoted .json)
    simp [fields, List.lookup_append, List.lookup_cons]
  have hpermalinks : defaulted? s.fields "permalinks"
      (Document.table? .json (Document.number? .json)) .empty = some s.permalinks := by
    refine defaulted?_eq_some_of_ite ?_
      (Document.table?_ofFields Document.number?_number s.permalinks) Table.isEmpty_iff.1
    simp [fields, List.lookup_append, List.lookup_cons]
  have hbuilds : defaulted? s.fields "builds"
      (Document.list? .json (Build.ofDocument? .json)) [] = some s.builds := by
    refine defaulted?_eq_some ?_ (Document.list?_sequence Build.ofDocument?_toDocument s.builds)
    simp [fields, List.lookup_append, List.lookup_cons]
  simp [ofDocument?, hfields, hname, hroot, hpermalinks, hbuilds]

theorem isWritable_toDocument (s : JobSnapshot) : IsWritable s.toDocument := by
  have hroot := isWritable_of_mem_toList "root" IsWritable.string s.root
  have hpermalinks := isWritable_of_mem_entryUnless "permalinks" s.permalinks.isEmpty
    (Document.isWritable_numbers s.permalinks)
  have hbuilds := Document.isWritable_sequence Build.isWritable_toDocument s.builds
  refine .fields ?_
  simp only [fields, List.forall_mem_append]
  refine ⟨⟨⟨?_, hroot⟩, hpermalinks⟩, ?_⟩
  · exact List.forall_mem_singleton.2 (.string s.name)
  · exact List.forall_mem_singleton.2 hbuilds

end JobSnapshot

namespace Snapshot

theorem ofDocument?_toDocument (s : Snapshot) : ofDocument? .json s.toDocument = some s := by
  have hfields : s.toDocument.fields? .json ["jobs"] =
      some [("jobs", .sequence (s.jobs.map JobSnapshot.toDocument))] :=
    Document.fields?_ofFields (by decide) (.refl _)
  have hjobs := Document.list?_sequence JobSnapshot.ofDocument?_toDocument s.jobs
  simp [ofDocument?, hfields, defaulted?, hjobs]

theorem isWritable_toDocument (s : Snapshot) : IsWritable s.toDocument :=
  .fields <| List.forall_mem_singleton.2 <|
    Document.isWritable_sequence JobSnapshot.isWritable_toDocument s.jobs

end Snapshot

/-! ### Texts -/

open Json (SpellsText read?_eq_of_spellsText spellsText_pretty)

theorem Build.read_of_spellsText {b : Build} {s : String} (h : SpellsText s b.toDocument) :
    (Json.read? s).bind (ofDocument? .json) = some b := by
  rw [read?_eq_of_spellsText h, Option.bind_some, ofDocument?_toDocument]

theorem Snapshot.ofText_of_spellsText {snapshot : Snapshot} {s : String}
    (h : SpellsText s snapshot.toDocument) : ofText .json s = .ok snapshot := by
  simp only [ofText, read?_eq_of_spellsText h, Option.bind_some, ofDocument?_toDocument]

theorem History.ofText_of_spellsText {snapshot : Snapshot} {s : String}
    (h : SpellsText s snapshot.toDocument) :
    ofText .json s = (ofSnapshot snapshot).mapError .duplicate := by
  rw [ofText, Snapshot.ofText_of_spellsText h]
  dsimp only [bind, Except.bind]
  cases ofSnapshot snapshot with
  | ok h => rfl
  | error e => rfl

/-- Builds and histories come back from JSON. From every text for a build, whatever white space
there is in it, the same build is read, with the fields that were left out. From every text for a
snapshot the history is loaded that the snapshot itself gives, or the same repetition is found; if
nothing is defined twice there, then a history it is. What is printed for a build or a snapshot is
such a text. -/
theorem json_readsBack :
    (∀ (b : Build) (s : String), SpellsText s b.toDocument →
      (Json.read? s).bind (Build.ofDocument? .json) = some b) ∧
    (∀ (snapshot : Snapshot) (s : String), SpellsText s snapshot.toDocument →
      History.ofText .json s = (History.ofSnapshot snapshot).mapError .duplicate ∧
      (snapshot.IsUnrepeated →
        ∃ h, History.ofSnapshot snapshot = .ok h ∧ History.ofText .json s = .ok h)) ∧
    (∀ b : Build, SpellsText (Json.pretty b.toDocument) b.toDocument) ∧
    ∀ snapshot : Snapshot, SpellsText (Json.pretty snapshot.toDocument) snapshot.toDocument := by
  refine ⟨fun b s h => Build.read_of_spellsText h, fun snapshot s h => ?_,
    fun b => spellsText_pretty b.isWritable_toDocument,
    fun snapshot => spellsText_pretty snapshot.isWritable_toDocument⟩
  have htext := History.ofText_of_spellsText h
  refine ⟨htext, fun hunrepeated => ?_⟩
  obtain ⟨k, hk, -⟩ := History.exists_ofSnapshot hunrepeated
  exact ⟨k, hk, by rw [htext, hk]; rfl⟩

/-- A build that is still running and has causes of all kinds, beside one without any, which is also
written without white space. -/
theorem json_readsBack_mixed :
    let running : Build :=
      ⟨"app", 8, some "nightly \"8\"", none,
        [.triggered ⟨"lib", 3⟩, .user none, .user (some "ada"), .timer, .other "by\thand"],
        .ofList [("lib", 3), ("base", 1)]⟩
    let finished : Build := ⟨"", 7, none, some .unstable, [], .empty⟩
    let app : JobSnapshot := ⟨"app", some "main", .ofList [("kept", 7)], [running, finished]⟩
    let snapshot : Snapshot := ⟨[app, ⟨"lib", none, .empty, []⟩]⟩
    (Json.read? (Json.pretty running.toDocument)).bind (Build.ofDocument? .json) = some running ∧
    (Json.read? "\x7b\"job\":\"\",\"number\":7,\"result\":\"unstable\"\x7d").bind
      (Build.ofDocument? .json) = some finished ∧
    ∃ h, History.ofSnapshot snapshot = .ok h ∧
      History.ofText .json (Json.pretty snapshot.toDocument) = .ok h := by
  intro running finished app snapshot
  obtain ⟨hbuild, hsnapshot, hprintedBuild, hprintedSnapshot⟩ := json_readsBack
  have hmembers := Json.Separated.cons (Json.member_self "job" (Json.Spells.string "")) <|
    .cons (Json.member_self "number" (Json.Spells.number 7)) <|
      .last (Json.member_self "result" (Json.Spells.string "unstable"))
  have htext : SpellsText "\x7b\"job\":\"\",\"number\":7,\"result\":\"unstable\"\x7d"
      finished.toDocument :=
    Json.padded_self (.members hmembers)
  have hunrepeated : snapshot.IsUnrepeated := by
    refine ⟨by decide, ?_⟩
    simp [snapshot, app, running, finished, JobSnapshot.IsUnrepeated]
  exact ⟨hbuild running _ (hprintedBuild running), hbuild finished _ htext,
    (hsnapshot snapshot _ (hprintedSnapshot snapshot)).2 hunrepeated⟩

end BuildPicker
