import SaBuilder.Go.Runtime
import SaBuilder.Go.Strings
import SaBuilder.Go.Filepath
import SaBuilder.Git.RepoName
import SaBuilder.Git.CreateRepo
import SaBuilder.Git.CreateLock
import SaBuilder.Git.Sequential
import SaBuilder.Sshd.Keys
import SaBuilder.Sshd.HostKeys
import SaBuilder.Sshd.Cookoo
import SaBuilder.Sshd.Auth
import SaBuilder.Sshd.Interleaving
import SaBuilder.Sshd.Schedules
import SaBuilder.Git.Receive
import SaBuilder.Gitreceive.ReadLine
import SaBuilder.Gitreceive.Run
import SaBuilder.Gitreceive.Storage
