import RuleScan.Cache.Block
import RuleScan.ExternalValue
import RuleScan.Files.Basic
import RuleScan.Findings.Listing

/-!
# Failures

Everything that can go wrong in a scan, by cause. `Failure.message` has the wording; a failure that
comes from using a session in the wrong phase is told apart by `isLifecycle`.
-/

namespace RuleScan

/-- A session used in the wrong phase. -/
inductive Misuse
  | alreadyBuilt
  | notBuilt
  | closed
  | buildFailed
  deriving DecidableEq, Repr

/-- The wording of a misuse. -/
def Misuse.message : Misuse → String
  | alreadyBuilt => "编译会话已构建，不允许重复 build 或继续添加规则"
  | notBuilt => "编译会话尚未构建，无法扫描"
  | closed => "编译会话已关闭"
  | buildFailed => "编译会话构建失败，会话已不可用"

/-- Why a rule source or a setting of the compiler is refused. -/
inductive CompileFault
  | blankNamespace
  | unreadable (path : String) (fault : FileFault)
  /-- The walk through a directory failed, in its own words. -/
  | unlisted (path words : String)
  /-- Refused by the compiler, in its own words. -/
  | refused (words : String)
  deriving DecidableEq, Repr

/-- The wording of a compile fault. -/
def CompileFault.message : CompileFault → String
  | blankNamespace => "命名空间不能为空"
  | unreadable path fault => "无法读取规则文件 " ++ path ++ ": " ++ fault.message
  | unlisted path words => "遍历规则目录 " ++ path ++ " 失败: " ++ words
  | refused words => words

/-- Why a rule cache cannot be used. -/
inductive CacheFault
  | foreign
  | noVersion
  | otherVersion (found expected : Nat)
  | damaged (fault : Block.Fault) (size : Nat)
  /-- The cached bytes are no rules, in the words of the compiler. -/
  | noRules (words : String)
  /-- The rules cannot be turned into bytes, in the words of the compiler. -/
  | notStored (words : String)
  deriving DecidableEq, Repr

/-- The wording of a cache fault. -/
def CacheFault.message : CacheFault → String
  | foreign => "缓存文件头无效"
  | noVersion => "缓存文件缺少格式版本"
  | otherVersion found expected =>
    "缓存格式版本不匹配: " ++ decimal found ++ " (期望 " ++ decimal expected ++ ")"
  | damaged fault size => "LZ4解压缩失败: " ++ fault.message ++ ", 压缩包字节长度: " ++ decimal size
  | noRules words => "规则集反序列化失败: " ++ words
  | notStored words => "规则集序列化失败: " ++ words

/-- Why a configuration cannot be loaded. -/
inductive ConfigFault
  | unreadable (path : String) (fault : FileFault)
  | invalid (path : String) (fault : Json.Fault)

/-- The wording of a configuration fault. -/
def ConfigFault.message : ConfigFault → String
  | unreadable path fault => "读取 " ++ path ++ " 失败: " ++ fault.message
  | invalid path fault => "解析 " ++ path ++ " 失败: " ++ fault.message

/-- Why an argument is refused. -/
inductive InputFault
  | noPaths (given : String)
  | noPluginName
  | noPatterns (plugin : String)
  | cannotIgnoreModules (module : String)
  | cannotDefineVariables (name : String) (value : ExternalValue)
  | cannotExport

/-- The wording of a refused argument. -/
def InputFault.message : InputFault → String
  | noPaths given => "规则文件路径为空: " ++ Text.quoted given
  | noPluginName => "插件标识不能为空"
  | noPatterns plugin => "插件 " ++ plugin ++ " 未定义任何模式"
  | cannotIgnoreModules module => "当前编译端不支持忽略模块: " ++ module
  | cannotDefineVariables name value =>
    "当前编译端不支持定义全局变量: " ++ name ++ " = " ++ value.display
  | cannotExport => "当前扫描端不支持导出规则集"

/-- Why the shared scanner cannot be set up. -/
inductive SetupFault
  /-- Its rules could not be built, in the words of that failure. -/
  | build (words : String)
  /-- Another scanner was set up in the meantime. -/
  | taken
  deriving DecidableEq, Repr

/-- The wording of a setup fault. -/
def SetupFault.message : SetupFault → String
  | build words => "Failed to build global scanner: " ++ words
  | taken =>
    "Global scanner initialization failed: instance already initialized by another thread"

/-- Anything that can go wrong. -/
inductive Failure
  | compile (fault : CompileFault)
  | build (words : String)
  | scan (words : String)
  | plugin (name words : String)
  /-- A pattern is refused by what reads it, in its own words. -/
  | regex (words : String)
  | misuse (m : Misuse)
  | notSetUp
  | setup (fault : SetupFault)
  | cache (fault : CacheFault)
  | config (fault : ConfigFault)
  | json (fault : Json.Fault)
  | file (fault : FileFault)
  | input (fault : InputFault)

namespace Failure

/-- The wording of a failure. -/
def message : Failure → String
  | compile fault => "规则编译失败：" ++ fault.message
  | build words => "规则集构建失败：" ++ words
  | scan words => "扫描失败：" ++ words
  | plugin name words => "插件扫描失败 [" ++ name ++ "]：" ++ words
  | regex words => "插件正则编译失败：" ++ words
  | misuse m => "生命周期错误：" ++ m.message
  | notSetUp => "全局扫描器未初始化"
  | setup fault => "全局扫描器初始化失败: " ++ fault.message
  | cache fault => "规则缓存失败：" ++ fault.message
  | config fault => "配置加载失败：" ++ fault.message
  | json fault => "JSON解析失败：" ++ fault.message
  | file fault => "IO操作失败：" ++ fault.message
  | input fault => "无效输入：" ++ fault.message

/-- Whether a session was used in the wrong phase. -/
def isLifecycle : Failure → Bool
  | misuse _ => true
  | _ => false

/-- The wording of what lies behind a failure, if it only passes on another one. -/
def cause? : Failure → Option String
  | regex words => some words
  | misuse m => some m.message
  | json fault => some fault.message
  | file fault => some fault.message
  | _ => none

end Failure

end RuleScan
