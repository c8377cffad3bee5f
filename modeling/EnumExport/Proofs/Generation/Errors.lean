import EnumExport.Proofs.Generation.Following
import EnumExport.Proofs.Generation.Turns

namespace EnumExport

namespace Step

variable {settings : Settings} {session : Session} {files : List Path} {path : Path} {count : Nat}

end Step

end EnumExport
