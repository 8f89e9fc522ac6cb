import DocsConsole.Session.Basic
import Mathlib.Data.List.Nodup

/-!
# Histories of a session

An operation is one way to change a session, with any arguments.  A history lists
operations, newest first, and is carried out from the session at the start.  The
list of branches in a session is traced back to the operation that brought it, so
the history itself is part of what is kept invariant.
-/

namespace DocsConsole

namespace Session

inductive Operation where
  | selectTab (tab : Tab)
  | setPurpose (purpose : Purpose)
  | togglePurpose
  | addFiles (files : List UploadedFile) (target : IntakeTarget)
  | removeFile (index : Nat)
  | removeQualityFile
  | applyGenerated (content : String) (purpose : Purpose) (time : TimeOfDay)
  | applyReport (report : QualityReport)
  | applyConnected (token : String)
  | disconnect
  | applyRepositories (repositories : List String)
  | selectRepository (name : Option String)
  | applyBranches (repository : String) (branches : List String)
  | selectBranch (name : Option String)
  | startCall (label : String)
  | finishCall (ticket : Ticket)

def perform (session : Session) : Operation → Session
  | .selectTab tab => session.selectTab tab
  | .setPurpose purpose => session.setPurpose purpose
  | .togglePurpose => session.togglePurpose
  | .addFiles files target => session.addFiles files target
  | .removeFile index => session.removeFile index
  | .removeQualityFile => session.removeQualityFile
  | .applyGenerated content purpose time => session.applyGenerated content purpose time
  | .applyReport report => session.applyReport report
  | .applyConnected token => session.applyConnected token
  | .disconnect => session.disconnect
  | .applyRepositories repositories => session.applyRepositories repositories
  | .selectRepository name => session.selectRepository name
  | .applyBranches repository branches => session.applyBranches repository branches
  | .selectBranch name => session.selectBranch name
  | .startCall label => session.startCall label
  | .finishCall ticket => session.finishCall ticket

/-- The session that a history, newest operation first, leads to. -/
def after : List Operation → Session
  | [] => initial
  | operation :: past => (after past).perform operation

/-- The list of branches that was accepted last, with the repository it was given
for, as long as no repository was chosen and no connection ended since. -/
def acceptedBranches : List Operation → Option (String × List String)
  | [] => none
  | .applyBranches repository branches :: past =>
      if (after past).wantsBranches repository then some (repository, branches)
      else acceptedBranches past
  | .selectRepository _ :: _ => none
  | .disconnect :: _ => none
  | _ :: past => acceptedBranches past

/-- What holds of every session, whatever was done to it. -/
structure Coherent (session : Session) : Prop where
  names_distinct : (session.uploads.map (·.name)).Nodup
  nothing_of_no_repository : session.github.repository = none →
    session.github.branch = none ∧ session.github.branches = []
  repository_named : session.github.repository ≠ some ""
  branch_named : session.github.branch ≠ some ""

/-- The branches of a session are those that were accepted last, and their
repository is the chosen one. -/
def TracedTo (github : Github) : Option (String × List String) → Prop
  | none => github.branches = []
  | some (repository, branches) =>
      github.repository = some repository ∧ github.branches = branches

theorem choice_ne_empty (name : Option String) : choice name ≠ some "" := by
  cases name with
  | none => simp [choice]
  | some name => simp [choice, Option.filter_eq_some_iff]

theorem mergeUploads_distinct
    {uploads : List UploadedFile} (files : List UploadedFile)
    (distinct : (uploads.map (·.name)).Nodup) :
    ((mergeUploads uploads files).map (·.name)).Nodup := by
  induction files generalizing uploads with
  | nil => exact distinct
  | cons file files induction =>
      by_cases known : uploads.any (·.name = file.name)
      · rw [mergeUploads, if_pos known]
        exact induction distinct
      · rw [mergeUploads, if_neg known]
        apply induction
        have fresh : ∀ upload ∈ uploads, upload.name ≠ file.name := by
          simpa using known
        rw [List.map_append, List.map_singleton, List.nodup_append]
        refine ⟨distinct, List.nodup_singleton _, ?_⟩
        intro name member other otherMember
        obtain ⟨upload, uploadMember, rfl⟩ := List.mem_map.mp member
        rw [List.mem_singleton.mp otherMember]
        exact fresh upload uploadMember

namespace Coherent

theorem initial : Coherent initial := by
  constructor
  · exact List.nodup_nil
  · intro _
    exact ⟨rfl, rfl⟩
  · simp [Session.initial, Github.empty]
  · simp [Session.initial, Github.empty]

/-- Only the uploads and what was fetched with a token matter. -/
theorem congr {session next : Session} (coherent : Coherent session)
    (uploads : next.uploads = session.uploads) (github : next.github = session.github) :
    Coherent next := by
  constructor
  · rw [uploads]
    exact coherent.names_distinct
  · rw [github]
    exact coherent.nothing_of_no_repository
  · rw [github]
    exact coherent.repository_named
  · rw [github]
    exact coherent.branch_named

theorem addFiles {session : Session} (coherent : Coherent session)
    (files : List UploadedFile) (target : IntakeTarget) :
    Coherent (session.addFiles files target) := by
  cases target with
  | documentation =>
      exact { coherent with
        names_distinct := mergeUploads_distinct files coherent.names_distinct }
  | quality =>
      cases files with
      | nil => exact coherent
      | cons file files => exact coherent.congr rfl rfl

theorem removeFile {session : Session} (coherent : Coherent session) (index : Nat) :
    Coherent (session.removeFile index) := by
  refine { coherent with names_distinct := ?_ }
  have shorter : ((session.uploads.eraseIdx index).map (·.name)).Sublist
      (session.uploads.map (·.name)) :=
    (List.eraseIdx_sublist session.uploads index).map _
  exact coherent.names_distinct.sublist shorter

theorem disconnect {session : Session} (coherent : Coherent session) :
    Coherent session.disconnect where
  names_distinct := coherent.names_distinct
  nothing_of_no_repository := fun _ => ⟨rfl, rfl⟩
  repository_named := by simp [Session.disconnect, Github.empty]
  branch_named := by simp [Session.disconnect, Github.empty]

theorem selectRepository {session : Session} (coherent : Coherent session)
    (name : Option String) : Coherent (session.selectRepository name) where
  names_distinct := coherent.names_distinct
  nothing_of_no_repository := fun _ => ⟨rfl, rfl⟩
  repository_named := choice_ne_empty name
  branch_named := by simp [Session.selectRepository]

theorem applyBranches {session : Session} (coherent : Coherent session)
    (repository : String) (branches : List String) :
    Coherent (session.applyBranches repository branches) := by
  unfold Session.applyBranches
  split
  case isTrue wanted =>
    have chosen : session.github.repository = some repository := by
      simpa [wantsBranches] using wanted
    refine { coherent with nothing_of_no_repository := ?_ }
    intro unchosen
    rw [chosen] at unchosen
    contradiction
  case isFalse => exact coherent

theorem selectBranch {session : Session} (coherent : Coherent session)
    (name : Option String) : Coherent (session.selectBranch name) := by
  refine { coherent with nothing_of_no_repository := ?_, branch_named := ?_ }
  · intro unchosen
    have unchosenBefore : session.github.repository = none := unchosen
    refine ⟨?_, (coherent.nothing_of_no_repository unchosenBefore).2⟩
    simp [Session.selectBranch, unchosenBefore]
  · cases chosen : session.github.repository with
    | none => simp [Session.selectBranch, chosen]
    | some repository =>
        simpa [Session.selectBranch, chosen] using choice_ne_empty name

theorem perform {session : Session} (coherent : Coherent session)
    (operation : Operation) : Coherent (session.perform operation) := by
  cases operation with
  | selectTab => exact coherent.congr rfl rfl
  | setPurpose => exact coherent.congr rfl rfl
  | togglePurpose => exact coherent.congr rfl rfl
  | addFiles files target => exact coherent.addFiles files target
  | removeFile index => exact coherent.removeFile index
  | removeQualityFile => exact coherent.congr rfl rfl
  | applyGenerated => exact coherent.congr rfl rfl
  | applyReport => exact coherent.congr rfl rfl
  | applyConnected => exact { coherent with }
  | disconnect => exact coherent.disconnect
  | applyRepositories => exact { coherent with }
  | selectRepository name => exact coherent.selectRepository name
  | applyBranches repository branches => exact coherent.applyBranches repository branches
  | selectBranch name => exact coherent.selectBranch name
  | startCall => exact coherent.congr rfl rfl
  | finishCall => exact coherent.congr rfl rfl

end Coherent

theorem after_coherent (past : List Operation) : Coherent (after past) := by
  induction past with
  | nil => exact Coherent.initial
  | cons operation past induction => exact induction.perform operation

/-- Tracing looks at the chosen repository and at its branches only. -/
theorem TracedTo.congr {github next : Github} {source : Option (String × List String)}
    (traced : TracedTo github source) (repository : next.repository = github.repository)
    (branches : next.branches = github.branches) : TracedTo next source := by
  cases source with
  | none => exact branches.trans traced
  | some entry => exact ⟨repository.trans traced.1, branches.trans traced.2⟩

/-- The invariant that carries the history: what `acceptedBranches` remembers is
what the session shows. -/
theorem after_tracedTo (past : List Operation) :
    TracedTo (after past).github (acceptedBranches past) := by
  induction past with
  | nil => rfl
  | cons operation past induction =>
      cases operation with
      | applyBranches repository branches =>
          simp only [after, perform, applyBranches, acceptedBranches]
          by_cases wanted : (after past).wantsBranches repository
          · rw [if_pos wanted, if_pos wanted]
            exact ⟨by simpa [wantsBranches] using wanted, rfl⟩
          · rw [if_neg wanted, if_neg wanted]
            exact induction
      | selectRepository name => rfl
      | disconnect => rfl
      | addFiles files target =>
          have same := addFiles_github (after past) files target
          exact induction.congr (congrArg Github.repository same)
            (congrArg Github.branches same)
      | _ => exact induction.congr rfl rfl

theorem perform_generated_isSome {session : Session} (operation : Operation)
    (generated : session.generated.isSome) :
    (session.perform operation).generated.isSome := by
  cases operation with
  | applyGenerated => rfl
  | addFiles files target =>
      simpa only [perform, addFiles_generated] using generated
  | applyBranches repository branches =>
      simp only [perform, applyBranches]
      split <;> exact generated
  | _ => exact generated

theorem generated_stays (later past : List Operation)
    (generated : (after past).generated.isSome) :
    (after (later ++ past)).generated.isSome := by
  induction later with
  | nil => exact generated
  | cons operation later induction => exact perform_generated_isSome operation induction

/-- Whatever is done to a session: names of uploads stay distinct, nothing is left
of a repository that is not chosen, no choice is empty, the branches are those of
the last accepted list for the chosen repository, and generated content stays. -/
theorem after_invariants (past : List Operation) :
    Coherent (after past) ∧
      ((after past).github.branches = [] ∨
        ∃ repository,
          acceptedBranches past = some (repository, (after past).github.branches) ∧
            (after past).github.repository = some repository) ∧
      ∀ later, (after past).generated.isSome →
        (after (later ++ past)).generated.isSome := by
  refine ⟨after_coherent past, ?_, fun later => generated_stays later past⟩
  have traced := after_tracedTo past
  cases source : acceptedBranches past with
  | none =>
      rw [source] at traced
      exact Or.inl traced
  | some entry =>
      obtain ⟨repository, branches⟩ := entry
      rw [source] at traced
      obtain ⟨chosen, same⟩ := traced
      exact Or.inr ⟨repository, by rw [same], chosen⟩

end Session

end DocsConsole
