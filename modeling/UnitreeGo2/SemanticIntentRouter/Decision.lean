import UnitreeGo2.SemanticIntentRouter.History

/-!
# The decisions of the semantic intent router

One request gets one decision: a text for the operator, a task update and a tree with at most one
call of a capability (`semantic_intent_router/server.py`).  The HTTP endpoint around it is left
out.
-/

namespace UnitreeGo2.SemanticIntentRouter

open SemanticNavigation (Landmark LandmarkStore LandmarkRaised)

/-! ## Decisions -/

/-- The one leaf of a tree. -/
structure Call where
  cap : String
  args : List (String × PyValue)
  description : String

/-- A sequence of leaves. -/
structure Tree where
  description : String
  children : List Call

inductive TaskStatus where
  | inProgress
  | done
  deriving DecidableEq, Repr

structure TaskUpdate where
  goal : String
  successCriterion : String
  status : TaskStatus

/-- A response envelope with its HTTP status. -/
structure Decision where
  content : String
  rtdlDescription : String
  rtdl : Tree
  taskUpdate : Option TaskUpdate
  status : ℕ := 200

def emptyTree (description : String) : Tree := ⟨description, []⟩

/-- `_do`. -/
def doTree (capability : String) (args : List (String × PyValue)) (description : String) : Tree :=
  ⟨description, [⟨capability, args, description⟩]⟩

def task (target : String) (status : TaskStatus) : TaskUpdate :=
  ⟨"导航到已保存地标：" ++ target, "语义导航状态返回 SUCCEEDED，机器人已停止", status⟩

/-- A decision without a leaf. -/
def answer (content description : String) (taskUpdate : Option TaskUpdate) : Decision :=
  { content, rtdlDescription := description, rtdl := emptyTree description, taskUpdate }

/-- `text or default`. -/
def textOr (default text : String) : String := if text = "" then default else text

/-! ## Follow distance -/

section FollowDistance

variable (lib : Library)

def formatMeters (value : ExtRat) : String := lib.general value ++ " 米"

def followDistanceAction (intent : FollowDistanceIntent) : String :=
  match intent.operation with
  | .set => "设置跟随距离为 " ++ formatMeters lib intent.meters
  | .adjust =>
    if ExtRat.lt 0 intent.meters then "将跟随距离增加 " ++ formatMeters lib intent.meters
    else "将跟随距离缩短 " ++ formatMeters lib intent.meters.abs

def followDistanceTask (intent : FollowDistanceIntent) (status : TaskStatus) : TaskUpdate :=
  ⟨followDistanceAction lib intent, "RobotTrack 距离能力返回本次设置结果", status⟩

def followDistanceOutputTarget (output : Leaf) : Except RouterRaised (Option ExtRat) :=
  match PyValue.get output "target_distance_m" with
  | .bool _ => .ok none
  | value =>
    match value.toFloat lib.parseFloat with
    | .error .overflowError => .error .overflowError
    | .error _ => .ok none
    | .ok distance =>
      .ok (if distance.isFinite && ExtRat.lt 0 distance then some distance else none)

def followDistanceRejected (output : Leaf) : Bool :=
  ["accepted", "ok", "success"].any fun key => isFalse (PyValue.get output key)

/-- What a document in the detail says, at the first of its keys that says something. -/
def parsedDetail (parsed : Leaf) : Option String :=
  ["detail", "message", "reason"].findSome? fun key =>
    match PyValue.get parsed key with
    | .none => none
    | value =>
      let text := lib.strip (str lib value)
      if text = "" then none else some text

def followDistanceDetail (output : Leaf) : String :=
  match PyValue.get output "detail" with
  | .str detail =>
    if lib.strip detail = "" then ""
    else (parsedDetail lib (mapping lib (.str detail))).getD (lib.strip detail)
  | _ => ""

def operationName : Operation → String
  | .set => "set"
  | .adjust => "adjust"

/-- What the operator is told of the latest result. -/
def followDistanceOutcome (action : String) (latest : Leaf) : Except RouterRaised String :=
  let output := latest.output lib
  if latest.succeeded && !followDistanceRejected output then do
    match ← followDistanceOutputTarget lib output with
    | some target => return action ++ "已完成，当前目标距离为 " ++ formatMeters lib target
    | none => return action ++ "已完成"
  else
    let detail := followDistanceDetail lib output
    let suffix := if detail = "" then "" else "：" ++ detail
    .ok (action ++ "失败" ++ suffix ++ "；未重复下发本次调整")

/-- One update of the setpoint.  Any feedback of the turn ends it, so that a relative update is not
sent again. -/
def followDistanceDecision (turn : Turn) (capabilities : List String)
    (intent : FollowDistanceIntent) : Except RouterRaised Decision :=
  let action := followDistanceAction lib intent
  match (followDistanceLeaves lib turn.feedbackMessages).getLast? with
  | some latest => do
    let content ← followDistanceOutcome lib action latest
    return answer content "RobotTrack follow distance terminal"
      (some (followDistanceTask lib intent .done))
  | none =>
    if turn.feedbackMessages ≠ [] then
      .ok (answer (action ++ "的执行反馈无法解析；未重复下发本次调整")
        "RobotTrack follow distance feedback invalid" (some (followDistanceTask lib intent .done)))
    else if FOLLOW_DISTANCE_CAPABILITY ∉ capabilities then
      .ok (answer "Pilot 未公布 RobotTrack 跟随距离能力，未调整距离"
        "RobotTrack follow distance capability unavailable"
        (some (followDistanceTask lib intent .done)))
    else
      .ok {
        content := "已识别“" ++ action ++ "”，交给 RobotTrack 跟随距离能力"
        rtdlDescription := "update RobotTrack follow distance"
        rtdl := doTree FOLLOW_DISTANCE_CAPABILITY
          [("operation", .str (operationName intent.operation)), ("meters", .float intent.meters)]
          action
        taskUpdate := some (followDistanceTask lib intent .inProgress) }

end FollowDistance

/-! ## Navigation -/

/-- `_terminal`. -/
def terminalDecision (content target : String) (success : Bool) : Decision :=
  answer (content ++ "；" ++ if success then "已到达目标并停止" else "任务已终止，未继续下发导航")
    "semantic navigation terminal" (some (task target .done))

def terminalState (content : String) (run : ActiveRun) : Decision :=
  terminalDecision content (textOr "当前目标" run.target) (run.state = .succeeded)

/-- `_hold`: the task goes on without a call. -/
def hold (content target : String) : Decision :=
  answer content "semantic navigation safety hold"
    (some (task (textOr "当前目标" target) .inProgress))

def poll (run : ActiveRun) (content : String) : Decision :=
  { content
    rtdlDescription := "poll semantic navigation status"
    rtdl := doTree STATUS_CAPABILITY [("run_id", .str run.runId)]
      "read semantic navigation terminal state"
    taskUpdate := some (task (textOr "当前目标" run.target) .inProgress) }

def cancel (run : ActiveRun) (content : String) : Decision :=
  { content
    rtdlDescription := "cancel semantic navigation and await provider terminal state"
    rtdl := doTree CANCEL_CAPABILITY [("run_id", .str run.runId)] "cancel semantic navigation"
    taskUpdate := some
      ⟨"安全停止当前导航：" ++ textOr "当前目标" run.target,
        "导航提供方确认 SUCCEEDED、CANCELED 或 FAILED，机器人已停止", .inProgress⟩ }

def startNavigation (target : String) : Decision :=
  { content := "已匹配已验证地标“" ++ target ++ "”，交给 Robonix 导航服务"
    rtdlDescription := "navigate to saved landmark " ++ target
    rtdl := doTree NAV_CAPABILITY [("name", .str target)]
      ("navigate to verified landmark " ++ target)
    taskUpdate := some (task target .inProgress) }

def STOP_UTTERANCES : List String :=
  ["停", "停止", "停下", "停下来", "别走了", "不要走了", "取消", "取消任务", "取消导航", "停止任务",
    "停止导航"]

/-- A run that is not known to have ended. -/
def unended (run : Option ActiveRun) : Option ActiveRun := run.filter fun run => ¬ run.Terminal

/-- What the router has read off a history. -/
structure View where
  caps : List String
  turn : Turn
  priorActive : Option ActiveRun
  currentLeaves : List Leaf
  run : Option ActiveRun

namespace View

variable (view : View)

/-- The run that is not known to have ended. -/
def active : Option ActiveRun := unended view.run

/-- The run that is known to have ended. -/
def terminal : Option ActiveRun := view.run.filter fun run => run.Terminal

def latest : Option Leaf := view.currentLeaves.getLast?

/-- `active or prior_active`. -/
def candidate : Option ActiveRun := view.active <|> view.priorActive

/-- Cancel a run that may be moving, if one is known that can be cancelled. -/
def cancelOr (candidate : Option ActiveRun) (content : String) (otherwise : Decision) : Decision :=
  match candidate with
  | some run => if CANCEL_CAPABILITY ∈ view.caps then cancel run content else otherwise
  | none => otherwise

/-- `required_live_caps.issubset(caps)`. -/
def Navigates : Prop :=
  ∀ cap ∈ [NAV_CAPABILITY, STATUS_CAPABILITY, CANCEL_CAPABILITY], cap ∈ view.caps

/-- `monitoring_caps.issubset(caps)`. -/
def Monitors : Prop := ∀ cap ∈ [STATUS_CAPABILITY, CANCEL_CAPABILITY], cap ∈ view.caps

instance : Decidable view.Navigates :=
  inferInstanceAs (Decidable (∀ cap ∈ [NAV_CAPABILITY, STATUS_CAPABILITY, CANCEL_CAPABILITY],
    cap ∈ view.caps))

instance : Decidable view.Monitors :=
  inferInstanceAs (Decidable (∀ cap ∈ [STATUS_CAPABILITY, CANCEL_CAPABILITY], cap ∈ view.caps))

end View

section Navigation

variable (lib : Library)

/-- The reduction of a history. -/
def viewOf (messages : List Message) : Except RouterRaised View := do
  let turn := currentTurn lib messages
  let priorLeaves ← semanticLeaves lib turn.priorMessages
  let priorActive := unended (advanceActive lib none priorLeaves)
  let currentLeaves ← semanticLeaves lib turn.feedbackMessages
  return {
    caps := advertisedCapabilities messages
    turn
    priorActive
    currentLeaves
    run := advanceActive lib priorActive currentLeaves }

/-- The answer to a feedback that cannot be read, or to a latest result that is no progress.  The
target is the landmark of the command, if it names one. -/
def judgeFeedback (view : View) (landmark : Option Landmark) : Option Decision :=
  let target := (landmark.map Landmark.name).getD "当前目标"
  if view.turn.feedbackMessages.any fun message => (leafResults lib [message]).isEmpty then
    some (view.cancelOr view.candidate "执行反馈无法可靠解析；正在取消已知活动导航并等待终态"
      (hold "执行反馈无法可靠解析；无法证明机器人已经停止，请人工接管并检查导航状态"
        ((landmark.map Landmark.name).getD ((view.candidate.map ActiveRun.target).getD "当前目标"))))
  else
    match view.latest with
    | none => none
    | some latest =>
      let contract := latest.contract lib
      let output := latest.output lib
      let navigationCompletion :=
        if contract = NAV_CONTRACT then navigationCompletionState lib output else none
      if !latest.succeeded ∧
          ¬ (navigationCompletion.any (fun state => state.Terminal) ∧ view.terminal.isSome) then
        some (view.cancelOr view.candidate "Robonix 能力调用失败；正在重试取消活动导航并等待终态"
          (hold "Robonix 能力调用失败且无法证明没有活动目标；未宣告任务完成" target))
      else if contract = NAV_CONTRACT then
        if navigationCompletion.isSome then none
        else if isTrue (PyValue.get output "accepted") ∧ runIdFromOutput lib output = "" then
          some (hold "导航可能已接受但未返回可取消的 run_id；请人工接管，系统不会重复下发" target)
        else if isFalse (PyValue.get output "accepted") then
          some (view.cancelOr view.priorActive "新导航未被接受；先安全取消原活动导航"
            (terminalDecision "语义导航明确拒绝了该请求" target false))
        else if !isTrue (PyValue.get output "accepted") then
          some (hold "导航反馈缺少可验证的接受状态或提供方终态；未宣告任务完成" target)
        else none
      else if contract = STATUS_CONTRACT then
        -- only a state that the output names itself counts here
        if isTrue (PyValue.get output "known") ∧
            (RunState.ofName? (lib.upper (strippedItem lib output "state"))).isSome then
          none
        else
          some (view.cancelOr view.candidate "导航状态未知或格式无效；正在取消活动导航并等待提供方终态"
            (hold "导航状态未知且没有可验证的停止证据；未宣告任务完成" target))
      else if contract = CANCEL_CONTRACT then
        if isTrue (PyValue.get output "accepted") then none
        else
          some (view.cancelOr view.candidate "取消请求未被接受；正在重试取消"
            (hold "取消请求未被接受且无法确认终态；请保持人工接管" target))
      else none

/-- `latest.get("contract_id") == CANCEL_CONTRACT`. -/
def View.cancelSubmitted (view : View) : Bool :=
  view.latest.any fun latest => (PyValue.get latest "contract_id").eqStr CANCEL_CONTRACT

/-- The answer to a stop command. -/
def decideStop (view : View) : Decision :=
  match view.terminal with
  | some run => terminalState ("导航提供方已确认 " ++ run.state.name) run
  | none =>
    match view.active with
    | none =>
      answer "当前没有可识别的活动语义导航任务" "no active semantic navigation to cancel"
        (some ⟨"停止当前导航", "不存在活动语义导航任务", .done⟩)
    | some active =>
      if ¬ view.Monitors then
        hold "Pilot 缺少状态或取消能力，无法证明机器人停止；请立即人工接管" active.target
      else if view.cancelSubmitted then poll active "取消已提交，正在等待导航提供方确认终态"
      else cancel active "收到停止指令，正在取消活动导航并等待终态"

/-- The answer to a command that names no verified landmark. -/
def decideUnmatched (view : View) (landmarkError : String) : Decision :=
  match view.active with
  | some active =>
    if ¬ view.Monitors then
      hold "新指令未匹配已验证地标，且 Pilot 缺少活动导航的安全跟踪能力" active.target
    else
      poll active ("新指令未匹配唯一已验证地标（" ++ landmarkError ++ "）；继续跟踪原导航，不下发新目标")
  | none =>
    match view.terminal with
    | some run =>
      terminalState ("原导航已确认 " ++ run.state.name ++ "；新指令未匹配已验证地标") run
    | none =>
      answer ("未找到唯一且已验证的语义地标：" ++ landmarkError) "semantic target rejected" none

/-- The answer to a command that names a verified landmark. -/
def decideTarget (view : View) (target : String) : Decision :=
  match view.terminal with
  | some run =>
    -- a target switch: the old goal has ended, and so the new one may start
    if view.priorActive.any fun prior => run.runId = prior.runId ∧ target ≠ prior.target then
      if ¬ view.Navigates then
        hold "原导航已停止，但 Pilot 未公布完整导航/状态/取消能力，未启动新目标" target
      else startNavigation target
    else terminalState ("Robonix navigation 已确认 " ++ run.state.name) run
  | none =>
    match view.active with
    | some active =>
      if ¬ view.Monitors then
        hold "存在活动导航，但 Pilot 未公布完整状态/取消能力；请人工接管" (textOr target active.target)
      else if view.priorActive.any fun prior =>
          active.runId = prior.runId ∧ target ≠ prior.target then
        if view.cancelSubmitted then poll active "目标切换的取消已提交，等待原导航确认终态"
        else cancel active ("切换到“" ++ target ++ "”前，先取消原目标“" ++ active.target ++ "”并等待终态")
      else
        poll active ("已启动前往“" ++ textOr target active.target ++ "”的真实导航，正在等待到达")
    | none =>
      if ¬ view.Navigates then
        answer ("Pilot 未公布完整语义导航能力，未发起运动；缺少：" ++
            SemanticNavigation.printedSorted lib.toLandmarkLibrary
              ([NAV_CAPABILITY, STATUS_CAPABILITY, CANCEL_CAPABILITY].filter (· ∉ view.caps)))
          "semantic capability unavailable" none
      else startNavigation target

/-- The landmark that a text names, or why it names none. -/
def namedLandmark (store : LandmarkStore) (command : String) (requireVerified : Bool) :
    Except RouterRaised (Except String Landmark) :=
  match store.resolve lib.toLandmarkLibrary
      ⟨command, store.mapId, store.mapGeneration, requireVerified⟩ with
  | .ok landmark => .ok (.ok landmark)
  | .error (.landmarkError text) => .ok (.error text)
  | .error .overflowError => .error .overflowError

def stopRequested (command : String) : Bool :=
  lib.normalizeText command ∈ STOP_UTTERANCES.map lib.normalizeText

/-- The answer to a command that is no follow distance, or comes while a run is active. -/
def decideNavigation (store : LandmarkStore) (view : View) : Except RouterRaised Decision :=
  if stopRequested lib view.turn.command then
    .ok ((judgeFeedback lib view none).getD (decideStop view))
  else do
    match ← namedLandmark lib store view.turn.command true with
    | .ok landmark =>
      return (judgeFeedback lib view (some landmark)).getD (decideTarget lib view landmark.name)
    | .error text => return (judgeFeedback lib view none).getD (decideUnmatched view text)

/-- `decide` in the live mode. -/
def decideLive (store : LandmarkStore) (messages : List Message) :
    Except RouterRaised Decision := do
  let view ← viewOf lib messages
  match ← (parseFollowDistanceIntent lib.toUnicode view.turn.command.toList).mapError .parser with
  | some intent =>
    if view.priorActive.isNone && view.active.isNone then
      followDistanceDecision lib view.turn view.caps intent
    else decideNavigation lib store view
  | none => decideNavigation lib store view

end Navigation

/-! ## The preview -/

section Preview

variable (lib : Library)

/-- What a previewed landmark is not sent for. -/
def previewBlockers (landmark : Landmark) : List String :=
  if landmark.verified then
    ["GO2_ALLOW_MOTION=false", "预览模式禁止执行", "map/localization/Nav2 就绪状态未通过"]
  else
    ["GO2_ALLOW_MOTION=false", "预览模式禁止执行",
      "地标“" ++ landmark.name ++ "”尚无物理验证 approach Pose", "map/localization/Nav2 就绪状态未通过"]

/-- The goal of a previewed navigation. -/
def previewGoal (name : String) : String := "语义导航预览：" ++ name

def previewNavigation (store : LandmarkStore) (command : String) : Except RouterRaised Decision :=
  let normalized := lib.normalizeText command
  if normalized = "" then
    .ok (answer "未识别到可预览的语义导航指令；未调用任何能力"
      "motion-disabled semantic preview: empty command" none)
  else if stopRequested lib command then
    .ok (answer "当前是运动禁用预览模式，没有启动导航任务"
      "motion-disabled semantic preview: no active run"
      (some ⟨previewGoal "停止导航",
        "阻塞原因：GO2_ALLOW_MOTION=false；预览模式未调用 Robonix navigation、Nav2 或 Unitree API",
        .done⟩))
  else do
    match ← namedLandmark lib store command false with
    | .error text =>
      return answer ("未找到唯一语义目标：" ++ text ++ "；未调用任何能力")
        "motion-disabled semantic preview: target rejected" none
    | .ok landmark =>
      let blockedReason := String.intercalate "；" (previewBlockers landmark)
      return answer
        ("已识别导航意图：" ++ landmark.name ++ "；" ++ blockedReason ++
          "；未调用 Robonix navigation、Nav2 或 Unitree API")
        "motion-disabled semantic preview: no capability calls"
        (some ⟨previewGoal landmark.name,
          "阻塞原因：" ++ blockedReason ++ "；未调用 Robonix navigation、Nav2 或 Unitree API", .done⟩)

/-- `_preview`: one intent is shown, and nothing is called. -/
def preview (store : LandmarkStore) (messages : List Message) : Except RouterRaised Decision := do
  let turn := currentTurn lib messages
  match ← (parseFollowDistanceIntent lib.toUnicode turn.command.toList).mapError .parser with
  | some intent =>
    let action := followDistanceAction lib intent
    return answer ("已识别“" ++ action ++ "”；当前是预览模式，未调用 RobotTrack 跟随距离能力")
      "motion-disabled semantic preview: no capability calls"
      (some ⟨"跟随距离预览：" ++ action, "预览模式未调用 RobotTrack 跟随距离能力", .done⟩)
  | none => previewNavigation lib store turn.command

inductive ExecutionMode where
  | preview
  | live
  deriving DecidableEq, Repr

/-- `_execution_mode`. -/
def executionMode (lower : String → String) (value : PyValue) :
    Except RouterRaised ExecutionMode :=
  let selected := SemanticNavigation.orDefault (.str "preview") value
  let normalized := lower (lib.strip (str lib selected))
  if normalized = "preview" then .ok .preview
  else if normalized = "live" then .ok .live
  else .error (.valueError "semantic intent execution mode must be preview or live")

def decide (store : LandmarkStore) (mode : ExecutionMode) (messages : List Message) :
    Except RouterRaised Decision :=
  match mode with
  | .preview => preview lib store messages
  | .live => decideLive lib store messages

end Preview

end UnitreeGo2.SemanticIntentRouter
