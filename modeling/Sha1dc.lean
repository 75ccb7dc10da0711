import Sha1dc.ToolMarks
import Sha1dc.Unavoidable
