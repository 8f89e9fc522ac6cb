import DocsConsole.Console.Dispatch

/-!
# What panels ask for

A panel answers few actions with a request, and it only asks for what belongs to
its own tab.  No action that is answered with a request has an effect of its own,
and a repository can only be asked for while the session is connected.
-/

namespace DocsConsole

/-- Whether a panel can answer an action with a request. -/
def Action.mayAsk : Action → Bool
  | .focusNext => true
  | .confirm => true
  | .removeSelected => true
  | .generate => true
  | .submit => true
  | .edit _ => true
  | _ => false

/-- The tab whose panel asks for something. -/
def Request.tab : Request → Tab
  | .addPaths _ .documentation => .documentation
  | .addPaths _ .quality => .quality
  | .removeFile _ => .documentation
  | .removeQualityFile => .quality
  | .generateDocs _ _ => .documentation
  | .connect _ => .github
  | .selectRepository _ => .github
  | .selectBranch _ => .github
  | .openPullRequest _ _ _ => .github

namespace DocsPanel

variable {workspace : Workspace} {panel : DocsPanel} {request : Request}

theorem addition?_tab {paths : List FilePath}
    (asks : addition? paths = some request) : request.tab = .documentation := by
  unfold addition? at asks
  split at asks
  · contradiction
  · cases asks
    rfl

theorem takePaths_tab (asks : (panel.takePaths workspace).2 = some request) :
    request.tab = .documentation := by
  rw [takePaths] at asks
  exact addition?_tab asks

theorem acceptSuggestion_tab
    (asks : (panel.acceptSuggestion workspace).2 = some request) :
    request.tab = .documentation := by
  unfold acceptSuggestion at asks
  dsimp only at asks
  split at asks
  · exact takePaths_tab asks
  · contradiction

theorem edit_tab {edit : Edit}
    (asks : (panel.edit workspace edit).2 = some request) :
    request.tab = .documentation := by
  unfold DocsPanel.edit at asks
  split at asks
  · split at asks
    · exact acceptSuggestion_tab asks
    · exact takePaths_tab asks
  · contradiction
  · contradiction

theorem whileTyping_asks {action : Action}
    (asks : (panel.whileTyping workspace action).2 = some request) :
    action.mayAsk = true ∧ request.tab = .documentation := by
  cases action with
  | cancel =>
      simp only [whileTyping] at asks
      split at asks <;> contradiction
  | focusNext =>
      refine ⟨rfl, ?_⟩
      simp only [whileTyping] at asks
      split at asks
      · exact acceptSuggestion_tab asks
      · contradiction
  | up =>
      simp only [whileTyping] at asks
      split at asks <;> contradiction
  | down =>
      simp only [whileTyping] at asks
      split at asks <;> contradiction
  | submit =>
      refine ⟨rfl, ?_⟩
      simp only [whileTyping] at asks
      split at asks
      · exact takePaths_tab asks
      · cases asks
        rfl
  | edit edit => exact ⟨rfl, edit_tab asks⟩
  | _ => contradiction

theorem atRest_asks {files : Nat} {action : Action}
    (asks : (panel.atRest workspace files action).2 = some request) :
    action.mayAsk = true ∧ request.tab = .documentation := by
  cases action with
  | removeSelected =>
      refine ⟨rfl, ?_⟩
      simp only [atRest] at asks
      split at asks
      · cases asks
        rfl
      · contradiction
  | generate =>
      cases asks
      exact ⟨rfl, rfl⟩
  | edit edit =>
      cases edit with
      | paste text => exact ⟨rfl, addition?_tab asks⟩
      | _ => contradiction
  | _ => contradiction

theorem handle_asks {session : Session} {action : Action}
    (asks : (panel.handle workspace session action).2 = some request) :
    action.mayAsk = true ∧ request.tab = .documentation := by
  unfold handle at asks
  split at asks
  · exact whileTyping_asks asks
  · exact atRest_asks asks

end DocsPanel

namespace QualityPanel

variable {workspace : Workspace} {panel : QualityPanel} {request : Request}

theorem choice?_tab {paths : List FilePath}
    (asks : choice? paths = some request) : request.tab = .quality := by
  unfold choice? at asks
  split at asks
  · contradiction
  · cases asks
    rfl

theorem takePath_tab (asks : (panel.takePath workspace).2 = some request) :
    request.tab = .quality := by
  rw [takePath] at asks
  exact choice?_tab asks

theorem acceptSuggestion_tab
    (asks : (panel.acceptSuggestion workspace).2 = some request) :
    request.tab = .quality := by
  unfold acceptSuggestion at asks
  dsimp only at asks
  split at asks
  · exact takePath_tab asks
  · contradiction

theorem edit_tab {edit : Edit}
    (asks : (panel.edit workspace edit).2 = some request) :
    request.tab = .quality := by
  unfold QualityPanel.edit at asks
  split at asks
  · split at asks
    · exact acceptSuggestion_tab asks
    · exact takePath_tab asks
  · contradiction

theorem whileTyping_asks {action : Action}
    (asks : (panel.whileTyping workspace action).2 = some request) :
    action.mayAsk = true ∧ request.tab = .quality := by
  cases action with
  | cancel =>
      simp only [whileTyping] at asks
      split at asks <;> contradiction
  | focusNext =>
      refine ⟨rfl, ?_⟩
      simp only [whileTyping] at asks
      split at asks
      · exact acceptSuggestion_tab asks
      · contradiction
  | submit => exact ⟨rfl, takePath_tab asks⟩
  | edit edit => exact ⟨rfl, edit_tab asks⟩
  | _ => contradiction

theorem atRest_asks {session : Session} {action : Action}
    (asks : (panel.atRest workspace session action).2 = some request) :
    action.mayAsk = true ∧ request.tab = .quality := by
  cases action with
  | removeSelected =>
      refine ⟨rfl, ?_⟩
      simp only [atRest] at asks
      split at asks
      · cases asks
        rfl
      · contradiction
  | edit edit =>
      cases edit with
      | paste text => exact ⟨rfl, choice?_tab asks⟩
      | _ => contradiction
  | _ => contradiction

theorem handle_asks {session : Session} {action : Action}
    (asks : (panel.handle workspace session action).2 = some request) :
    action.mayAsk = true ∧ request.tab = .quality := by
  unfold handle at asks
  split at asks
  · exact whileTyping_asks asks
  · exact atRest_asks asks

end QualityPanel

namespace GithubPanel

variable {panel : GithubPanel} {request : Request}

/-- A form is submitted as a whole: the one for a token or the one for a pull request. -/
theorem submit_asks (asks : panel.submit.2 = some request) :
    (panel.focus = .token ∧ request = .connect panel.token.value) ∨
      (panel.focus ≠ .token ∧ request =
        .openPullRequest panel.title.value panel.description.value
          panel.commitMessage.value) := by
  simp only [submit, Option.some.injEq] at asks
  split at asks
  case isTrue atToken => exact Or.inl ⟨atToken, asks.symm⟩
  case isFalse elsewhere => exact Or.inr ⟨elsewhere, asks.symm⟩

theorem edit_asks {edit : Edit} (asks : (panel.edit edit).2 = some request) :
    panel.submit.2 = some request := by
  unfold GithubPanel.edit at asks
  split at asks
  · exact asks
  · contradiction
  · contradiction

theorem whileTyping_asks {visibility : Visibility} {action : Action}
    (asks : (panel.whileTyping visibility action).2 = some request) :
    action.mayAsk = true ∧ panel.submit.2 = some request := by
  cases action with
  | submit => exact ⟨rfl, asks⟩
  | edit edit => exact ⟨rfl, edit_asks asks⟩
  | _ => contradiction

theorem atRest_asks {github : Github} {visibility : Visibility} {action : Action}
    (asks : (panel.atRest github visibility action).2 = some request) :
    action = .confirm ∧
      ((panel.focus = .repositories ∧
          request = .selectRepository (choiceAt github.repositories panel.repositoryCursor)) ∨
        (panel.focus = .branches ∧
          request = .selectBranch (choiceAt github.branches panel.branchCursor))) := by
  cases action with
  | confirm =>
      refine ⟨rfl, ?_⟩
      simp only [atRest, confirm] at asks
      split at asks
      case h_1 atRepositories =>
        cases asks
        exact Or.inl ⟨atRepositories, rfl⟩
      case h_2 atBranches =>
        cases asks
        exact Or.inr ⟨atBranches, rfl⟩
      case h_3 => contradiction
  | startEditing =>
      simp only [atRest] at asks
      split at asks <;> contradiction
  | _ => contradiction

theorem handle_asks {session : Session} {action : Action}
    (asks : (panel.handle session action).2 = some request) :
    action.mayAsk = true ∧ request.tab = .github := by
  simp only [handle] at asks
  split at asks
  · obtain ⟨mayAsk, submits⟩ := whileTyping_asks asks
    refine ⟨mayAsk, ?_⟩
    rcases submit_asks submits with ⟨_, rfl⟩ | ⟨_, rfl⟩ <;> rfl
  · obtain ⟨rfl, chooses⟩ := atRest_asks asks
    refine ⟨rfl, ?_⟩
    rcases chooses with ⟨_, rfl⟩ | ⟨_, rfl⟩ <;> rfl

/-- Without a connection nothing but the form for a token can have the focus. -/
theorem withFocusShown_focus {visibility : Visibility}
    (unconnected : visibility.tokenForm = true) :
    (panel.withFocusShown visibility).focus = .token := by
  simp [withFocusShown, unconnected]

/-- A repository is only asked for from the list, which is only shown with a connection. -/
theorem handle_asks_repository {session : Session} {action : Action} {name : Option String}
    (asks : (panel.handle session action).2 = some (.selectRepository name)) :
    session.isConnected = true := by
  simp only [handle] at asks
  split at asks
  · obtain ⟨_, submits⟩ := whileTyping_asks asks
    rcases submit_asks submits with ⟨_, impossible⟩ | ⟨_, impossible⟩ <;> contradiction
  · obtain ⟨_, ⟨focused, _⟩ | ⟨_, impossible⟩⟩ := atRest_asks asks
    · cases connected : session.isConnected with
      | true => rfl
      | false =>
          have tokenForm : session.visibility.tokenForm = true := by
            simp [Session.visibility, connected]
          have atToken : ((panel.withFocusShown session.visibility).withinLists
              session.github).focus = .token :=
            withFocusShown_focus tokenForm
          rw [atToken] at focused
          contradiction
    · contradiction

end GithubPanel

namespace Console

variable {console : Console} {action : Action} {request : Request}

/-- Only few actions are answered with a request, and it belongs to the tab on screen. -/
theorem askPanel_asks (asks : (console.askPanel action).2 = some request) :
    action.mayAsk = true ∧ request.tab = console.session.tab := by
  unfold askPanel at asks
  split at asks
  case h_1 shown =>
    rw [shown]
    exact DocsPanel.handle_asks asks
  case h_2 shown =>
    rw [shown]
    exact GithubPanel.handle_asks asks
  case h_3 shown =>
    rw [shown]
    exact QualityPanel.handle_asks asks

theorem askPanel_asks_repository {name : Option String}
    (asks : (console.askPanel action).2 = some (.selectRepository name)) :
    console.session.isConnected = true := by
  have shown : Tab.github = console.session.tab := (askPanel_asks asks).2
  simp only [askPanel, ← shown] at asks
  exact GithubPanel.handle_asks_repository asks

/-- An action that can be answered with a request does nothing else to the session. -/
theorem effect_of_mayAsk (moment : Moment) (mayAsk : action.mayAsk = true) :
    console.effect moment action = console := by
  cases action with
  | focusNext => rfl
  | confirm => rfl
  | removeSelected => rfl
  | generate => rfl
  | submit => rfl
  | edit edit => rfl
  | _ => contradiction

theorem note_of_mayAsk (moment : Moment) (mayAsk : action.mayAsk = true) :
    console.note moment action = console := by
  cases action with
  | toggleHelp => contradiction
  | notify toast => contradiction
  | tick => contradiction
  | _ => rfl

theorem passesHelp_of_mayAsk (mayAsk : action.mayAsk = true) :
    action.passesHelp = false := by
  cases action with
  | tick => contradiction
  | notify toast => contradiction
  | completed ticket outcome => contradiction
  | quit => contradiction
  | _ => rfl

end Console

end DocsConsole
