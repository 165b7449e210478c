import UpdateService.DownloadRequest
import UpdateService.Lib.Lts
import UpdateService.StringUtils
import UpdateService.TaskProgress

/-!
# The run of a `DownloadThread`

The functions that the submitted task of a thread runs through, from `DownloadVersion` to the last
report, and the labelled system `ThreadRun.lts` in which `NetChangeToPause`, `SetDisableCallbackFlag`
and `Stop` come between any two of its steps. `pc` is where the task is. What the outside answers (curl,
the response headers, the file system, the clock, the digest of the file) is in the labels.
-/

namespace UpdateService

inductive Sha256ErrCode
  | success | fileNotExist | sha256NotMatch | obtainFileSha256Fail
deriving DecidableEq, Repr

def Sha256ErrCode.toInt : Sha256ErrCode → Int
  | success => 0
  | fileNotExist => -1
  | sha256NotMatch => -2
  | obtainFileSha256Fail => -3

structure Sha256VerifyResult where
  sha256ErrCode : Sha256ErrCode := .success
  sha256Result : String := ""
deriving DecidableEq, Repr

def DownloadSizeErrorInfo.toString (requestSize filelistPackageSize : Int) : String :=
  "realPackageSize=" ++ requestSize.repr ++ ";" ++ "filelistPackageSize=" ++ filelistPackageSize.repr

def Sha256FailedReasonInfo.toString (result : Sha256VerifyResult) (fileSize : Int) : String :=
  "sha256ErrCode=" ++ result.sha256ErrCode.toInt.repr ++ ";" ++ "sha256Result=" ++ result.sha256Result ++ ";" ++
    "DownloadFileSize=" ++ fileSize.repr

/-- What libcurl and `<cerrno>` call these. -/
def curleOk : Int := 0
def curleWriteError : Int := 23
def curleReadError : Int := 26

structure Errno where
  code : Int
  text : String
deriving DecidableEq, Repr

namespace DownloadThread

def buildDownloadErrorInfo (errorInfo : String) (header : List String) (curlErrorCode : Int := curleOk)
    (httpErrorCode : Int := 200) : DownloadErrorInfo :=
  { curlErrorCode, httpErrorCode, header, errorInfo }

/-! ### Size checks -/

def getResponseSize (headers : List String) : Int :=
  let contentLength := ResponseHeaderParseUtils.parseKeyFromHeader "Content-Length".toList (headers.map String.toList)
  match StringUtils.decStringToNumber contentLength 0 with
  | (.success, n) => n
  | _ => 0

/-- `IsContentLengtAbnormal`, which holds when the size is as it should be. -/
def isContentLengtAbnormal (headers : List String) (dlTotal : Int) (th : DownloadThread) : Bool :=
  if ResponseHeaderParseUtils.findKeyFromHeader "Transfer-Encoding".toList (headers.map String.toList) then true
  else
    let contentDownloadSize := getResponseSize headers + th.downloadedSize
    if contentDownloadSize ≠ dlTotal then false
    else if contentDownloadSize ≠ th.downloadInfo.packageSize then false
    else true

/-- `IsPackageSizeAbnormal`, which holds when the size is as it should be. -/
def isPackageSizeAbnormal (headers : List String) (dlTotal dlNow : Int) (th : DownloadThread) : DownloadThread × Bool :=
  if th.isPackageSizeVerified ∨ dlTotal = dlNow then (th, true)
  else
    let th := { th with isPackageSizeVerified := true }
    if th.downloadInfo.packageSize = 0 then (th, false)
    else if th.isContentLengtAbnormal headers dlTotal then (th, true)
    else if th.downloadInfo.packageSize ≠ dlTotal then (th, false)
    else (th, true)

def handleSizeError (headers : List String) (requestSize : Int) (endReason : DownloadEndReason) (now : Int)
    (th : DownloadThread) : DownloadThread × DownloadCallbackInfo :=
  th.callbackDownload .fail endReason
    (buildDownloadErrorInfo (DownloadSizeErrorInfo.toString requestSize th.downloadInfo.packageSize) headers) now

/-! ### Progress -/

/-- The mark that the service shall reset the retry count: more than the initial file has arrived. -/
def markResetRetryTimes (dlNow : Int) (th : DownloadThread) : DownloadThread :=
  if th.callbackInfo.resetRetryTimes = false ∧ th.fileInitSize ≠ 0 ∧ th.fileInitSize < dlNow then
    { th with callbackInfo := { th.callbackInfo with resetRetryTimes := true } }
  else th

def outputProgress (th : DownloadThread) : Int :=
  if th.downloadInfo.packageSize = 0 then 0
  else castInt32 ((th.downloadedSize * downloadMaxPercent).tdiv th.downloadInfo.packageSize)

def effectiveTime (now : Int) (th : DownloadThread) : Int := now - th.downloadStartTime + th.lastEffectiveTime

def callbackProgress (dlNow now : Int) (th : DownloadThread) : DownloadThread × Option DownloadCallbackInfo :=
  let th := { th.markResetRetryTimes dlNow with downloadedSize := dlNow }
  if th.isDisableCallbackFlag then (th, none)
  else if th.percent < th.outputProgress ∧ th.outputProgress ≤ downloadMaxPercent then
    let th := { th with
      percent := th.outputProgress
      status := .downloading
      callbackInfo := { th.callbackInfo with effectiveTime := th.effectiveTime now } }
    let (th, info) := th.callbackDownload .downloading .init noError now
    (th, some info)
  else if th.downloadInfo.reportInterval ≤ 0 then (th, none)
  else if th.downloadInfo.reportInterval < now - th.prevCallbackTime then
    let (th, info) := th.callbackDownload .downloading .init noError now
    (th, some info)
  else (th, none)

/-- The progress callback that `DoDownload` hands to the request. -/
def onProgress (headers : List String) (dlTotal dlNow now : Int) (th : DownloadThread) :
    DownloadThread × Option DownloadCallbackInfo :=
  match th.isPackageSizeAbnormal headers dlTotal dlNow with
  | (th, false) =>
    let (th, info) := { th with isNeedCancel := true, isRequestStopped := true }.handleSizeError headers dlTotal .sizeError now
    (th, some info)
  | (th, true) => th.callbackProgress dlNow now

/-! ### The end of the request -/

def handleNetworkCheck (headers : List String) (curlRet responseCode : Int) (isNetAvailable : Bool) (now : Int)
    (th : DownloadThread) : DownloadThread × DownloadCallbackInfo :=
  let errorInfo := buildDownloadErrorInfo "" headers curlRet responseCode
  if !isNetAvailable then th.callbackDownload .autoPause .netNotAvailiable errorInfo now
  else if th.isNeedAutoPause then
    { th with isNeedAutoPause := false }.callbackDownload .autoPause .netChange errorInfo now
  else th.callbackDownload .autoPause .curlError errorInfo now

def handleFail (headers : List String) (curlRet responseCode : Int) (errno : Errno) (isNetAvailable : Bool) (now : Int)
    (th : DownloadThread) : DownloadThread × DownloadCallbackInfo :=
  if curlRet = curleWriteError ∨ curlRet = curleReadError then
    let errorInfo := "errno=" ++ errno.code.repr ++ ";" ++ "errnoMsg=" ++ errno.text ++ ";"
    th.callbackDownload .fail .ioException (buildDownloadErrorInfo errorInfo headers curlRet responseCode) now
  else if responseCode = 503 ∨ responseCode = 504 then
    th.callbackDownload .fail .serverTimeout (buildDownloadErrorInfo "" headers curlRet responseCode) now
  else if responseCode = 301 ∨ responseCode = 302 ∨ responseCode = 303 ∨ responseCode = 307 then
    th.callbackDownload .fail .redirect (buildDownloadErrorInfo "" headers curlRet responseCode) now
  else th.handleNetworkCheck headers curlRet responseCode isNetAvailable now

/-- `HandleDownloadFinish`: the report, or none where `DoVerify` follows. -/
def handleDownloadFinish (headers : List String) (curlRet responseCode : Int) (errno : Errno) (isNetAvailable : Bool)
    (now : Int) (th : DownloadThread) : DownloadThread × Option DownloadCallbackInfo :=
  let th := { th with callbackInfo := { th.callbackInfo with effectiveTime := th.effectiveTime now } }
  if th.isNeedAutoPause then
    let (th, info) := { th with isNeedAutoPause := false }.callbackDownload .autoPause .netChange noError now
    (th, some info)
  else if curlRet = curleOk ∨ th.downloadedSize = th.downloadInfo.packageSize then
    if th.downloadedSize ≠ th.downloadInfo.packageSize then
      let (th, info) := th.handleSizeError headers th.downloadedSize .finishSizeError now
      (th, some info)
    else (th, none)
  else
    let (th, info) := th.handleFail headers curlRet responseCode errno isNetAvailable now
    (th, some info)

/-! ### Verification -/

def callbackVerifyProgress (fileSize verifiedSize now : Int) (th : DownloadThread) :
    DownloadThread × Option DownloadCallbackInfo :=
  if th.isNeedCancel then (th, none)
  else if fileSize ≤ 0 ∨ fileSize < verifiedSize then (th, none)
  else if verifiedSize ≤ th.verifiedSize then (th, none)
  else
    let th := { th with verifiedSize }
    let verifiedPercent := castInt32 ((verifiedSize * downloadMaxPercent).tdiv fileSize)
    if th.verifiedPercent < verifiedPercent ∧ verifiedPercent.tmod 10 = 0 then
      let (th, info) := { th with status := .verifying, verifiedPercent }.callbackDownload .verifying .init noError now
      (th, some info)
    else (th, none)

/-- The end of `DoVerify`: `fileRealSize` is the size at its start, `fileSize` the size now. -/
def reportVerifyResult (headers : List String) (result : Sha256VerifyResult) (fileRealSize fileSize now : Int)
    (th : DownloadThread) : DownloadThread × DownloadCallbackInfo :=
  if result.sha256ErrCode = .success then
    { th with verifiedSize := fileRealSize }.callbackDownload .success .success (buildDownloadErrorInfo "" headers) now
  else
    th.callbackDownload .fail .verifyFail
      (buildDownloadErrorInfo (Sha256FailedReasonInfo.toString result fileSize) headers) now

end DownloadThread

/-! ### The system -/

/-- Where the task of a thread is: what it does next, with the values it then still holds. -/
inductive TaskPc
  | submitted
  | checking
  | starting
  | initPackage
  /-- `downloadedSize` is the size the request was made with. -/
  | requesting (downloadedSize : Int)
  | requested (curlRet responseCode : Int)
  | finishing (curlRet responseCode : Int)
  | verifyStart
  | verifying (fileRealSize : Int)
  | verified (fileRealSize : Int) (result : Sha256VerifyResult)
  | verifyEnd (fileRealSize : Int) (result : Sha256VerifyResult)
  | finished
deriving DecidableEq, Repr

structure ThreadRun where
  thread : DownloadThread
  pc : TaskPc := .submitted
  /-- `headersBuffer_` of the request. -/
  headers : List String := []
  /-- `NetChangeToPause` has found the status `INIT` and calls back next. -/
  isPausing : Bool := false
  /-- `NetChangeToPause` has found the status `INIT` before. -/
  hasPaused : Bool := false
  reports : List DownloadCallbackInfo := []

inductive ThreadOp
  | begin
  | checkBeforeStart (now : Int)
  | start (now : Int)
  /-- The error message of a failure. -/
  | initPackageParam (errorMsg : Option String) (now : Int)
  | header (contents : String)
  | progress (dlTotal dlNow now : Int)
  | response (curlRet responseCode : Int)
  | notifyCancel
  | finish (errno : Errno) (isNetAvailable : Bool) (now : Int)
  | verify (fileRealSize now : Int)
  | verifyProgress (verifiedSize now : Int)
  | digest (result : Sha256VerifyResult)
  | reportVerify (fileSize now : Int)
  | netChangeToPause
  | callbackPause (now : Int)
  | setDisableCallbackFlag (flag : Bool)
  | stop

namespace ThreadRun

def ofInfo (d : DownloadInfo) (fileRealSize now : Int) : ThreadRun := { thread := .ofInfo d fileRealSize now }

def report (r : DownloadThread × DownloadCallbackInfo) (pc : TaskPc) (s : ThreadRun) : ThreadRun :=
  { s with thread := r.1, pc, reports := s.reports ++ [r.2] }

def mayReport (r : DownloadThread × Option DownloadCallbackInfo) (pc : TaskPc) (s : ThreadRun) : ThreadRun :=
  { s with thread := r.1, pc, reports := s.reports ++ r.2.toList }

def progress (downloadedSize dlTotal dlNow now : Int) (s : ThreadRun) : ThreadRun :=
  let request : DownloadRequest := { downloadedSize, isNeedStop := s.thread.isRequestStopped }
  match request.callbackProgress dlTotal dlNow with
  | none => s
  | some (dlTotal, dlNow) => s.mayReport (s.thread.onProgress s.headers dlTotal dlNow now) s.pc

def step (s : ThreadRun) : ThreadOp → Option ThreadRun
  | .begin =>
    match s.pc with
    | .submitted => some { s with pc := .checking }
    | _ => none
  | .checkBeforeStart now =>
    match s.pc with
    | .checking =>
      if s.thread.downloadInfo.isCompleted then
        some (s.report (s.thread.callbackDownload s.thread.downloadInfo.status .init DownloadThread.noError now) .finished)
      else if s.thread.downloadInfo.isNeedVerify then some { s with pc := .verifyStart }
      else some { s with pc := .starting }
    | _ => none
  | .start now =>
    match s.pc with
    | .starting =>
      let th := { s.thread with status := .downloading, percent := 0 }
      some (s.report (th.callbackDownload .downloading .init DownloadThread.noError now) .initPackage)
    | _ => none
  | .initPackageParam errorMsg now =>
    match s.pc with
    | .initPackage =>
      match errorMsg with
      | some errorMsg =>
        some (s.report (s.thread.callbackDownload .fail .initPackageFail
          (DownloadThread.buildDownloadErrorInfo errorMsg []) now) .finished)
      | none =>
        some { s with thread := { s.thread with downloadStartTime := now }, pc := .requesting s.thread.downloadedSize }
    | _ => none
  | .header contents =>
    match s.pc with
    | .requesting _ => some { s with headers := s.headers ++ [String.ofList (StringUtils.trim contents.toList)] }
    | _ => none
  | .progress dlTotal dlNow now =>
    match s.pc with
    | .requesting downloadedSize => some (s.progress downloadedSize dlTotal dlNow now)
    | _ => none
  | .response curlRet responseCode =>
    match s.pc with
    | .requesting _ => some { s with pc := .requested curlRet responseCode }
    | _ => none
  | .notifyCancel =>
    match s.pc with
    | .requested curlRet responseCode =>
      some { s with pc := if s.thread.isNeedCancel then .finished else .finishing curlRet responseCode }
    | .verified fileRealSize result =>
      some { s with pc := if s.thread.isNeedCancel then .finished else .verifyEnd fileRealSize result }
    | _ => none
  | .finish errno isNetAvailable now =>
    match s.pc with
    | .finishing curlRet responseCode =>
      let r := s.thread.handleDownloadFinish s.headers curlRet responseCode errno isNetAvailable now
      some (s.mayReport r (if r.2.isSome then .finished else .verifyStart))
    | _ => none
  | .verify fileRealSize now =>
    match s.pc with
    | .verifyStart =>
      let th := { s.thread with status := .verifying, verifiedPercent := 0 }
      some (s.report (th.callbackDownload .verifying .init DownloadThread.noError now) (.verifying fileRealSize))
    | _ => none
  | .verifyProgress verifiedSize now =>
    match s.pc with
    | .verifying fileRealSize =>
      if s.thread.downloadInfo.isCombineVerifyProgress then
        some (s.mayReport (s.thread.callbackVerifyProgress fileRealSize verifiedSize now) s.pc)
      else none
    | _ => none
  | .digest result =>
    match s.pc with
    | .verifying fileRealSize => some { s with pc := .verified fileRealSize result }
    | _ => none
  | .reportVerify fileSize now =>
    match s.pc with
    | .verifyEnd fileRealSize result =>
      some (s.report (s.thread.reportVerifyResult s.headers result fileRealSize fileSize now) .finished)
    | _ => none
  | .netChangeToPause =>
    if s.isPausing then none
    else if s.thread.status = .init then some { s with isPausing := true, hasPaused := true }
    else some { s with thread := (s.thread.netChangeToPause 0).1 }
  | .callbackPause now =>
    if s.isPausing then
      let (th, info) := s.thread.callbackDownload .autoPause .netChange DownloadThread.noError now
      some { s with thread := th, isPausing := false, reports := s.reports ++ [info] }
    else none
  | .setDisableCallbackFlag flag => some { s with thread := { s.thread with isDisableCallbackFlag := flag } }
  | .stop => some { s with thread := s.thread.stop false }

def lts : Lts ThreadRun ThreadOp := .ofPartial step

/-- The steps there are, one rule for each branch of `step`. -/
inductive Step (s : ThreadRun) : ThreadOp → ThreadRun → Prop
  | begin : s.pc = .submitted → Step s .begin { s with pc := .checking }
  | completed (now : Int) : s.pc = .checking → s.thread.downloadInfo.isCompleted = true →
      Step s (.checkBeforeStart now) (s.report
        (s.thread.callbackDownload s.thread.downloadInfo.status .init DownloadThread.noError now) .finished)
  | needVerify (now : Int) : s.pc = .checking → s.thread.downloadInfo.isCompleted = false →
      Step s (.checkBeforeStart now) { s with pc := .verifyStart }
  | needDownload (now : Int) : s.pc = .checking → s.thread.downloadInfo.isCompleted = false →
      Step s (.checkBeforeStart now) { s with pc := .starting }
  | start (now : Int) : s.pc = .starting →
      Step s (.start now) (s.report ({ s.thread with status := .downloading, percent := 0 }.callbackDownload .downloading
        .init DownloadThread.noError now) .initPackage)
  | initFail (errorMsg : String) (now : Int) : s.pc = .initPackage →
      Step s (.initPackageParam (some errorMsg) now) (s.report (s.thread.callbackDownload .fail .initPackageFail
        (DownloadThread.buildDownloadErrorInfo errorMsg []) now) .finished)
  | request (now : Int) : s.pc = .initPackage →
      Step s (.initPackageParam none now)
        { s with thread := { s.thread with downloadStartTime := now }, pc := .requesting s.thread.downloadedSize }
  | header (contents : String) {downloadedSize : Int} : s.pc = .requesting downloadedSize →
      Step s (.header contents) { s with headers := s.headers ++ [String.ofList (StringUtils.trim contents.toList)] }
  | progress (dlTotal dlNow now : Int) {downloadedSize : Int} : s.pc = .requesting downloadedSize →
      Step s (.progress dlTotal dlNow now) (s.progress downloadedSize dlTotal dlNow now)
  | response (curlRet responseCode : Int) {downloadedSize : Int} : s.pc = .requesting downloadedSize →
      Step s (.response curlRet responseCode) { s with pc := .requested curlRet responseCode }
  | cancelled {curlRet responseCode : Int} : s.pc = .requested curlRet responseCode → s.thread.isNeedCancel = true →
      Step s .notifyCancel { s with pc := .finished }
  | goOn {curlRet responseCode : Int} : s.pc = .requested curlRet responseCode → s.thread.isNeedCancel = false →
      Step s .notifyCancel { s with pc := .finishing curlRet responseCode }
  | verifyCancelled {fileRealSize : Int} {result : Sha256VerifyResult} : s.pc = .verified fileRealSize result →
      Step s .notifyCancel { s with pc := .finished }
  | verified {fileRealSize : Int} {result : Sha256VerifyResult} : s.pc = .verified fileRealSize result →
      Step s .notifyCancel { s with pc := .verifyEnd fileRealSize result }
  | finish (errno : Errno) (isNetAvailable : Bool) (now : Int) {curlRet responseCode : Int}
      {r : DownloadThread × Option DownloadCallbackInfo} : s.pc = .finishing curlRet responseCode →
      s.thread.handleDownloadFinish s.headers curlRet responseCode errno isNetAvailable now = r →
      Step s (.finish errno isNetAvailable now) (s.mayReport r (if r.2.isSome then .finished else .verifyStart))
  | verify (fileRealSize now : Int) : s.pc = .verifyStart →
      Step s (.verify fileRealSize now) (s.report ({ s.thread with status := .verifying, verifiedPercent := 0
        }.callbackDownload .verifying .init DownloadThread.noError now) (.verifying fileRealSize))
  | verifyProgress (verifiedSize now : Int) {fileRealSize : Int} : s.pc = .verifying fileRealSize →
      Step s (.verifyProgress verifiedSize now)
        (s.mayReport (s.thread.callbackVerifyProgress fileRealSize verifiedSize now) s.pc)
  | digest (result : Sha256VerifyResult) {fileRealSize : Int} : s.pc = .verifying fileRealSize →
      Step s (.digest result) { s with pc := .verified fileRealSize result }
  | reportVerify (fileSize now : Int) {fileRealSize : Int} {result : Sha256VerifyResult} :
      s.pc = .verifyEnd fileRealSize result → Step s (.reportVerify fileSize now)
        (s.report (s.thread.reportVerifyResult s.headers result fileRealSize fileSize now) .finished)
  | pauseIdle : s.isPausing = false → s.thread.status = .init →
      Step s .netChangeToPause { s with isPausing := true, hasPaused := true }
  | pauseLater : s.isPausing = false → s.thread.status ≠ .init →
      Step s .netChangeToPause { s with thread := (s.thread.netChangeToPause 0).1 }
  | callbackPause (now : Int) : s.isPausing = true →
      Step s (.callbackPause now)
        { s with
          thread := (s.thread.callbackDownload .autoPause .netChange DownloadThread.noError now).1
          isPausing := false
          reports := s.reports ++ [(s.thread.callbackDownload .autoPause .netChange DownloadThread.noError now).2] }
  | setDisableCallbackFlag (flag : Bool) :
      Step s (.setDisableCallbackFlag flag) { s with thread := { s.thread with isDisableCallbackFlag := flag } }
  | stop : Step s .stop { s with thread := s.thread.stop false }

theorem step_cases {s s' : ThreadRun} {op : ThreadOp} (h : s.step op = some s') : Step s op s' := by
  cases op with
  | begin =>
    simp only [step] at h
    split at h
    · obtain rfl := Option.some.inj h
      exact .begin ‹_›
    · cases h
  | checkBeforeStart now =>
    simp only [step] at h
    split at h
    · rename_i hpc
      split at h
      · obtain rfl := Option.some.inj h
        exact .completed now hpc ‹_›
      rename_i hcomp
      split at h <;> obtain rfl := Option.some.inj h
      exacts [.needVerify now hpc (Bool.eq_false_iff.2 hcomp), .needDownload now hpc (Bool.eq_false_iff.2 hcomp)]
    · cases h
  | start now =>
    simp only [step] at h
    split at h
    · obtain rfl := Option.some.inj h
      exact .start now ‹_›
    · cases h
  | initPackageParam errorMsg now =>
    simp only [step] at h
    split at h
    · rename_i hpc
      split at h <;> obtain rfl := Option.some.inj h
      exacts [.initFail _ now hpc, .request now hpc]
    · cases h
  | header contents =>
    simp only [step] at h
    split at h
    · obtain rfl := Option.some.inj h
      exact .header contents ‹_›
    · cases h
  | progress dlTotal dlNow now =>
    simp only [step] at h
    split at h
    · obtain rfl := Option.some.inj h
      exact .progress dlTotal dlNow now ‹_›
    · cases h
  | response curlRet responseCode =>
    simp only [step] at h
    split at h
    · obtain rfl := Option.some.inj h
      exact .response curlRet responseCode ‹_›
    · cases h
  | notifyCancel =>
    simp only [step] at h
    split at h
    · rename_i hpc
      split at h <;> obtain rfl := Option.some.inj h
      · exact .cancelled hpc ‹_›
      · rename_i hgo
        exact .goOn hpc (Bool.eq_false_iff.2 hgo)
    · rename_i hpc
      split at h <;> obtain rfl := Option.some.inj h
      exacts [.verifyCancelled hpc, .verified hpc]
    · cases h
  | finish errno isNetAvailable now =>
    simp only [step] at h
    split at h
    · obtain rfl := Option.some.inj h
      exact .finish errno isNetAvailable now ‹_› rfl
    · cases h
  | verify fileRealSize now =>
    simp only [step] at h
    split at h
    · obtain rfl := Option.some.inj h
      exact .verify fileRealSize now ‹_›
    · cases h
  | verifyProgress verifiedSize now =>
    simp only [step] at h
    split at h
    · rename_i hpc
      split at h
      · obtain rfl := Option.some.inj h
        exact .verifyProgress verifiedSize now hpc
      · cases h
    · cases h
  | digest result =>
    simp only [step] at h
    split at h
    · obtain rfl := Option.some.inj h
      exact .digest result ‹_›
    · cases h
  | reportVerify fileSize now =>
    simp only [step] at h
    split at h
    · obtain rfl := Option.some.inj h
      exact .reportVerify fileSize now ‹_›
    · cases h
  | netChangeToPause =>
    simp only [step] at h
    split at h
    · cases h
    rename_i hidle
    split at h <;> obtain rfl := Option.some.inj h
    exacts [.pauseIdle (Bool.eq_false_iff.2 hidle) ‹_›, .pauseLater (Bool.eq_false_iff.2 hidle) ‹_›]
  | callbackPause now =>
    simp only [step] at h
    split at h
    · obtain rfl := Option.some.inj h
      exact .callbackPause now ‹_›
    · cases h
  | setDisableCallbackFlag flag =>
    obtain rfl := Option.some.inj h
    exact .setDisableCallbackFlag flag
  | stop =>
    obtain rfl := Option.some.inj h
    exact .stop

end ThreadRun

end UpdateService
